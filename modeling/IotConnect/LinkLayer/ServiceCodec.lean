import IotConnect.LinkLayer.Service
import IotConnect.Foundations.Logged

/-! # The codec of service frames (`linklayer_service.c`)

`DecodeCmdData` once more, position by position, with every position it reads. It accepts exactly the strings with the
length their fields announce. `EncodeCmdData` takes bodies of any length and writes their length to two bytes, so a
frame decodes to what was encoded exactly if the body is shorter than `2 ^ 16`. -/
namespace IotConnect.LinkLayer
open Bytes Foundations Logged
set_option autoImplicit false

/-- The service length of a frame, and its body length, low byte first. -/
def frameSvcLen (buff : List UInt8) : ℕ := (buff.getD 1 0).toNat

def frameBodyLen (buff : List UInt8) : ℕ :=
  (buff.getD (2 + frameSvcLen buff + 1) 0).toNat * 2 ^ 8 + (buff.getD (2 + frameSvcLen buff) 0).toNat

structure WellFormedFrame (buff : List UInt8) : Prop where
  json : (buff.getD 0 0 &&& 0xF0) >>> 4 = btCmdDataModeJson
  service : frameSvcLen buff < btSvcLen
  length : buff.length = 4 + frameSvcLen buff + frameBodyLen buff

/-- `DecodeCmdData` with the positions it reads; `strncpy_s` reads no byte behind the `svcLen` it is given. -/
def checkedCmdData (buff : List UInt8) : Logged ℕ IotcRet BtCmdParam :=
  if ¬ 0 < buff.length then fail .bleLlErrCmdDecode
  else do
    note [0]
    if (buff.getD 0 0 &&& 0xF0) >>> 4 ≠ btCmdDataModeJson then fail .bleLlErrDatamode
    else if ¬ 1 < buff.length then fail .bleLlErrCmdDecode
    else do
      note [1]
      if h : 2 + frameSvcLen buff ≤ buff.length ∧ frameSvcLen buff < btSvcLen then do
        note (List.range' 2 (frameSvcLen buff))
        if ¬ 2 + frameSvcLen buff + 2 ≤ buff.length then fail .bleLlErrCmdDecode
        else do
          note [2 + frameSvcLen buff + 1, 2 + frameSvcLen buff]
          if 4 + frameSvcLen buff + frameBodyLen buff ≠ buff.length then fail .bleLlErrCmdDecode
          else pure {
            dataFormat := (buff.getD 0 0 &&& 0xF0) >>> 4
            opType := buff.getD 0 0 &&& 0x0F
            service := .ofBytes ((buff.drop 2).take (frameSvcLen buff)) (by rw [List.length_take]; omega)
            request := buff.drop (4 + frameSvcLen buff) }
      else fail .bleLlErrCmdDecode

theorem checkedCmdData_inside (buff : List UInt8) : (checkedCmdData buff).All (· < buff.length) := by
  unfold checkedCmdData
  split
  · exact all_fail _
  next hlen =>
  refine (all_note_bind _ _).mpr ⟨fun i hi => by rw [List.mem_singleton.mp hi]; omega, ?_⟩
  split
  · exact all_fail _
  split
  · exact all_fail _
  next hone =>
  refine (all_note_bind _ _).mpr ⟨fun i hi => by rw [List.mem_singleton.mp hi]; omega, ?_⟩
  split
  · next hname =>
    refine (all_note_bind _ _).mpr ⟨fun i hi => ?_, ?_⟩
    · have hlt := (List.mem_range'_1.mp hi).2
      omega
    split
    · exact all_fail _
    next htwo =>
    refine (all_note_bind _ _).mpr ⟨fun i hi => ?_, ?_⟩
    · simp only [List.mem_cons, List.not_mem_nil, or_false] at hi
      omega
    split
    · exact all_fail _
    · exact all_pure _
  · exact all_fail _

theorem checkedCmdData_ok_iff (buff : List UInt8) :
    (∃ cmdParam, (checkedCmdData buff).result = .ok cmdParam) ↔ WellFormedFrame buff := by
  constructor
  · rintro ⟨cmdParam, h⟩
    unfold checkedCmdData at h
    split at h
    · cases h
    rw [result_note_bind] at h
    split at h
    · cases h
    next hjson =>
    split at h
    · cases h
    rw [result_note_bind] at h
    split at h
    · next hname =>
      rw [result_note_bind] at h
      split at h
      · cases h
      rw [result_note_bind] at h
      split at h
      · cases h
      next hlen => exact ⟨not_not.mp hjson, hname.2, (not_not.mp hlen).symm⟩
    · cases h
  · rintro ⟨hjson, hservice, hlen⟩
    unfold checkedCmdData
    rw [if_neg (by omega), result_note_bind, if_neg (not_not.mpr hjson), if_neg (by omega), result_note_bind,
      dif_pos ⟨by omega, hservice⟩, result_note_bind, if_neg (by omega), result_note_bind,
      if_neg (not_not.mpr hlen.symm)]
    exact ⟨_, rfl⟩

theorem getD_behind_service (type svcLen : UInt8) (s : List UInt8) (n i : ℕ) :
    (type :: svcLen :: s).getD (2 + n + i) 0 = (s.drop n).getD i 0 := by
  have hindex : 2 + n + i = n + i + 1 + 1 := by omega
  rw [hindex, List.getD_cons_succ, List.getD_cons_succ, List.getD_eq_getElem?_getD, List.getD_eq_getElem?_getD,
    List.getElem?_drop]

/-- The two renderings of `DecodeCmdData` agree. -/
theorem checkedCmdData_result (buff : List UInt8) : (checkedCmdData buff).result = decodeCmdData buff := by
  rcases buff with _ | ⟨type, _ | ⟨svcLen, s⟩⟩
  · rfl
  · unfold checkedCmdData
    rw [decodeCmdData, if_neg (by simp), result_note_bind, List.getD_cons_zero]
    by_cases hjson : (type &&& 0xF0) >>> 4 ≠ btCmdDataModeJson
    · rw [if_pos hjson, if_pos hjson]
      rfl
    · rw [if_neg hjson, if_neg hjson, if_pos (by simp)]
      rfl
  · have hsvc : frameSvcLen (type :: svcLen :: s) = svcLen.toNat := rfl
    have hlen : (type :: svcLen :: s).length = s.length + 2 := rfl
    unfold checkedCmdData
    rw [decodeCmdData, if_neg (by simp), result_note_bind, List.getD_cons_zero]
    by_cases hjson : (type &&& 0xF0) >>> 4 ≠ btCmdDataModeJson
    · rw [if_pos hjson, if_pos hjson]
      rfl
    rw [if_neg hjson, if_neg hjson, if_neg (by simp), result_note_bind]
    by_cases hname : svcLen.toNat ≤ s.length ∧ svcLen.toNat < btSvcLen
    swap
    · rw [dif_neg (by rw [hsvc, hlen]; omega), dif_neg hname]
      rfl
    rw [dif_pos (by rw [hsvc, hlen]; omega), dif_pos hname, result_note_bind]
    have hrest : (s.drop svcLen.toNat).length = s.length - svcLen.toNat := List.length_drop
    have hbody : frameBodyLen (type :: svcLen :: s) =
        ((s.drop svcLen.toNat).getD 1 0).toNat * 2 ^ 8 + ((s.drop svcLen.toNat).getD 0 0).toNat := by
      rw [frameBodyLen, hsvc, getD_behind_service, ← getD_behind_service type svcLen s svcLen.toNat 0, Nat.add_zero]
    have hrequest : (type :: svcLen :: s).drop (4 + svcLen.toNat) = (s.drop svcLen.toNat).drop 2 := by
      have hindex : 4 + svcLen.toNat = svcLen.toNat + 2 + 1 + 1 := by omega
      rw [hindex, List.drop_succ_cons, List.drop_succ_cons, List.drop_drop]
    simp only [hsvc, hbody, hlen, hrequest]
    generalize s.drop svcLen.toNat = rest at hrest
    rcases rest with _ | ⟨lo, _ | ⟨hi, request⟩⟩
    · rw [if_pos (by rw [List.length_nil] at hrest; omega)]
      rfl
    · rw [if_pos (by rw [List.length_singleton] at hrest; omega)]
      rfl
    · rw [List.length_cons, List.length_cons] at hrest
      rw [if_neg (by omega), result_note_bind, decodeBody]
      simp only [List.getD_cons_succ, List.getD_cons_zero]
      by_cases hannounced : request.length ≠ hi.toNat * 2 ^ 8 + lo.toNat
      · rw [if_pos hannounced, if_pos (by omega)]
        rfl
      · rw [if_neg hannounced, if_neg (by omega)]
        rfl

theorem decodeCmdData_ok_iff (buff : List UInt8) :
    (∃ cmdParam, decodeCmdData buff = .ok cmdParam) ↔ WellFormedFrame buff := by
  rw [← checkedCmdData_result]
  exact checkedCmdData_ok_iff buff

/-! ## Both directions -/

theorem opType_mask (opType : UInt8) : opType < 16 → opType &&& 0x0F = opType := by
  revert opType
  exact forall_byte (by decide +kernel)

theorem encoded_roundTrip_iff {mem : Bool} {cmdParam : BtCmdParam} {payload frame : List UInt8}
    (hformat : cmdParam.dataFormat = btCmdDataModeJson) (hop : cmdParam.opType < 16)
    (hframe : encodeCmdData mem cmdParam payload = .ok frame) :
    decodeCmdData frame = .ok { cmdParam with request := payload } ↔ payload.length < 2 ^ 16 := by
  obtain ⟨-, rfl⟩ := encodeCmdData_eq hframe
  constructor
  · intro hdecode
    obtain ⟨-, type, lo, hi, name, hof⟩ := decodeCmdData_ok hdecode
    have hlen : payload.length = hi.toNat * 2 ^ 8 + lo.toNat := hof.length
    have hhi := hi.toNat_lt
    have hlo := lo.toNat_lt
    omega
  · intro hlen
    rw [decodeCmdData_svcHeader cmdParam hformat hlen, opType_mask _ hop]

/-- What the codec is for: an encoded frame decodes to what was encoded, and exactly the well-formed strings decode,
with no read behind their end. -/
structure CmdDataCodec (cmdParam : BtCmdParam) (payload frame buff : List UInt8) : Prop where
  roundTrip : decodeCmdData frame = .ok { cmdParam with request := payload }
  accepts : (∃ cmdParam, decodeCmdData buff = .ok cmdParam) ↔ WellFormedFrame buff
  reads : (checkedCmdData buff).result = decodeCmdData buff ∧ (checkedCmdData buff).All (· < buff.length)

theorem cmdData_codec_iff {mem : Bool} {cmdParam : BtCmdParam} {payload frame : List UInt8} (buff : List UInt8)
    (hformat : cmdParam.dataFormat = btCmdDataModeJson) (hop : cmdParam.opType < 16)
    (hframe : encodeCmdData mem cmdParam payload = .ok frame) :
    CmdDataCodec cmdParam payload frame buff ↔ payload.length < 2 ^ 16 := by
  rw [← encoded_roundTrip_iff hformat hop hframe]
  constructor
  · intro h
    exact h.roundTrip
  · intro h
    exact ⟨h, decodeCmdData_ok_iff buff, checkedCmdData_result buff, checkedCmdData_inside buff⟩

def netCfg : BtCmdParam := ⟨btCmdDataModeJson, btOptypePut, ⟨ascii "netCfg", by decide, by decide⟩, []⟩

theorem cmdData_codec_short :
    CmdDataCodec netCfg [1, 2] ([0x10, 6] ++ ascii "netCfg" ++ [2, 0, 1, 2]) [0x10, 0, 0, 0] :=
  (@cmdData_codec_iff true _ _ _ [0x10, 0, 0, 0] rfl (by decide) rfl).mpr (by decide)

/-- A body of `2 ^ 16` bytes has the length `0` in its frame. -/
theorem long_body_lost : ∃ frame, encodeCmdData true netCfg (List.replicate (2 ^ 16) 0) = .ok frame ∧
    decodeCmdData frame ≠ .ok { netCfg with request := List.replicate (2 ^ 16) 0 } := by
  have hok : encodeCmdData true netCfg (List.replicate (2 ^ 16) 0) =
      .ok (svcHeader netCfg (List.replicate (2 ^ 16) (0 : UInt8)).length ++ List.replicate (2 ^ 16) 0) := by
    have hne : List.replicate (2 ^ 16) (0 : UInt8) ≠ [] :=
      List.ne_nil_of_length_pos (by rw [List.length_replicate]; decide)
    rw [encodeCmdData, if_neg hne, if_neg (by decide)]
    dsimp only [linkLayerWriteSvcHeader]
    rw [if_neg (by rw [List.length_replicate]; decide)]
    rfl
  refine ⟨_, hok, fun h => ?_⟩
  have hlt := (encoded_roundTrip_iff rfl (by decide) hok).mp h
  rw [List.length_replicate] at hlt
  omega

end IotConnect.LinkLayer
