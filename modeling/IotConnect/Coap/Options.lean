import IotConnect.Coap.Comm

/-! # Options on the wire

What the option builder writes, as lists of bytes, and what the option parser makes of it. A delta or
a length of 269 is written with one extension byte and one of 65805 with two, although both need one
more: the parser reads 13 and 269 instead (`parseExtension_extBytes`). So a list of options is read
back exactly when no such value occurs in it (`parseOptionsLoop_plain`, `plain_of_recovered`). -/
namespace IotConnect.Coap
open Memory
set_option autoImplicit false

/-! ## Extensions -/

def extBytes (value : ℕ) : List UInt8 :=
  if value < 13 then []
  else if value ≤ 269 then [(value - 13).toUInt8]
  else if value ≤ 65805 then [((value - 269) / 2 ^ 8).toUInt8, (value - 269).toUInt8]
  else [((value - 65805) / 2 ^ 24).toUInt8, ((value - 65805) / 2 ^ 16).toUInt8,
    ((value - 65805) / 2 ^ 8).toUInt8, (value - 65805).toUInt8]

/-- What the parser reads where `value` was written. -/
def readBack (value : ℕ) : ℕ := if value = 269 then 13 else if value = 65805 then 269 else value

theorem readBack_le (value : ℕ) : readBack value ≤ value := by
  unfold readBack
  split
  · omega
  split <;> omega

theorem readBack_eq_iff (value : ℕ) : readBack value = value ↔ value ≠ 269 ∧ value ≠ 65805 := by
  unfold readBack
  split
  · omega
  split <;> omega

theorem extBytes_length (value : ℕ) : (extBytes value).length = (coapCommGetExtensionBase value).2 := by
  unfold extBytes coapCommGetExtensionBase coapDeltaUint8AddNum coapDeltaUint16AddNum coapDeltaUint32AddNum
  split
  · rfl
  split
  · rfl
  split <;> rfl

theorem extensionBase_le (value : ℕ) (h : value ≤ 65805) : (coapCommGetExtensionBase value).1 ≤ 14 := by
  unfold coapCommGetExtensionBase coapDeltaUint8AddNum coapDeltaUint16AddNum coapDeltaUint32AddNum
    coapExtendDeltaValueUint8 coapExtendDeltaValueUint16 coapExtendDeltaValueUint32
  split
  · dsimp only
    omega
  split
  · decide
  · decide

theorem extensionBase_reserved_iff (value : ℕ) :
    (coapCommGetExtensionBase value).1 = coapExtendDeltaValueUint32 ↔ 65805 < value := by
  constructor
  · intro h
    by_contra hle
    have := extensionBase_le value (by omega)
    rw [h] at this
    exact absurd this (by decide)
  · intro h
    unfold coapCommGetExtensionBase coapDeltaUint8AddNum coapDeltaUint16AddNum coapDeltaUint32AddNum
    rw [if_neg (by omega), if_neg (by omega), if_neg (by omega)]

theorem buildExtension_eq (buf : CoapBuffer) (value : ℕ) (h : (extBytes value).length ≤ buf.room) :
    coapCommBuildExtension buf value = (.ok, buf.push (extBytes value)) := by
  unfold coapCommBuildExtension
  unfold extBytes at h ⊢
  unfold coapDeltaUint8AddNum coapDeltaUint16AddNum coapDeltaUint32AddNum
  split
  · rw [CoapBuffer.push_nil]
  rename_i h13
  rw [if_neg h13] at h
  split
  · rename_i h269
    rw [if_pos h269, List.length_singleton] at h
    rw [if_neg (by omega)]
  rename_i h269
  rw [if_neg h269] at h
  split
  · rename_i h65805
    rw [if_pos h65805] at h
    have h : 2 ≤ buf.room := h
    rw [if_neg (by omega)]
  · rename_i h65805
    rw [if_neg h65805] at h
    have h : 4 ≤ buf.room := h
    rw [if_neg (by omega)]

theorem parseExtension_extBytes (raw : CoapRaw) (pos value : ℕ) (hv : value ≤ 65805)
    (hmem : Holds raw.data pos (extBytes value)) (hlen : pos + (extBytes value).length ≤ raw.len) :
    coapCommParseExtension (coapCommGetExtensionBase value).1 raw pos =
      .ok (readBack value, pos + (extBytes value).length) := by
  unfold extBytes at hmem hlen ⊢
  unfold coapCommGetExtensionBase coapCommParseExtension coapDeltaUint8AddNum coapDeltaUint16AddNum
    coapDeltaUint32AddNum coapExtendDeltaValueUint8 coapExtendDeltaValueUint16 coapExtendDeltaValueUint32
  by_cases h13 : value < 13
  · have hr : readBack value = value := (readBack_eq_iff value).mpr (by omega)
    simp only [if_pos h13, List.length_nil, hr, Nat.add_zero]
    rw [if_neg (by omega), if_neg (by omega), if_neg (by omega)]
  simp only [if_neg h13] at hmem hlen ⊢
  by_cases h269 : value ≤ 269
  · simp only [if_pos h269, List.length_singleton] at hmem hlen ⊢
    have hb : raw.data pos = (value - 13).toUInt8 := hmem.getElem 0 Nat.zero_lt_one
    rw [if_pos trivial, if_neg (by omega), hb, toNat_toUInt8]
    have hval : (value - 13) % 2 ^ 8 + 13 = readBack value := by
      unfold readBack
      split
      · omega
      split <;> omega
    rw [hval]
  · simp only [if_neg h269, if_pos hv, List.length_cons, List.length_nil] at hmem hlen ⊢
    have hb0 : raw.data pos = ((value - 269) / 2 ^ 8).toUInt8 := hmem.getElem 0 (by simp)
    have hb1 : raw.data (pos + 1) = (value - 269).toUInt8 := hmem.getElem 1 (by simp)
    rw [if_neg (by omega), if_pos trivial, if_neg (by omega), hb0, hb1, toNat_toUInt8, toNat_toUInt8]
    have hval : (value - 269) / 2 ^ 8 % 2 ^ 8 * 2 ^ 8 + (value - 269) % 2 ^ 8 + 269 = readBack value := by
      unfold readBack
      split
      · omega
      split <;> omega
    rw [hval]

/-! ## One option -/

def optionHead (prev : UInt16) (o : BuildOption) : UInt8 :=
  ((coapCommGetExtensionBase (optionDelta prev o)).1 * 16 + (coapCommGetExtensionBase o.value.len).1).toUInt8

/-- Option `o` after an option with number `prev`. -/
def optionBytes (prev : UInt16) (o : BuildOption) : List UInt8 :=
  [optionHead prev o] ++ extBytes (optionDelta prev o) ++ extBytes o.value.len ++ o.value.sent

theorem optionDelta_le (prev : UInt16) (o : BuildOption) : optionDelta prev o ≤ 65535 := by
  have := (o.option - prev).toNat_lt
  unfold optionDelta
  omega

theorem optionBytes_length (prev : UInt16) (o : BuildOption) : (optionBytes prev o).length =
    1 + (extBytes (optionDelta prev o)).length + (extBytes o.value.len).length + o.value.len := by
  simp only [optionBytes, List.length_append, List.length_singleton, BuildData.sent_length]

theorem buildOptionData_eq (buf : CoapBuffer) (o : BuildOption) (dst : CoapOption) (hroom : o.value.len ≤ buf.room) :
    ∃ dst', coapCommBuildOptionData buf o dst = (.ok, dst', buf.push o.value.sent) := by
  unfold coapCommBuildOptionData
  by_cases h0 : o.value.len = 0
  · have hnil : o.value.sent = [] := List.length_eq_zero_iff.mp (by rw [BuildData.sent_length, h0])
    rw [if_pos h0, hnil, CoapBuffer.push_nil]
    exact ⟨dst, rfl⟩
  · rw [if_neg h0]
    cases hval : o.value with
    | null n => exact ⟨dst, rfl⟩
    | bytes l =>
      rw [hval] at h0 hroom
      have hroom : l.length ≤ buf.room := hroom
      dsimp only
      rw [memcpyS_of_le _ _ _ _ (by have : l.length ≠ 0 := h0; omega) hroom]
      exact ⟨_, rfl⟩

theorem buildSingleOption_cases (prev : UInt16) (o : BuildOption) (index : ℕ) (pkt : CoapPacket) (buf : CoapBuffer)
    (hle : buf.len ≤ buf.size) :
    (o.value.len ≤ 65805 ∧ buf.len + (optionBytes prev o).length ≤ buf.size ∧
      ∃ options, coapCommBuildSingleOption prev o index pkt buf =
        (.ok, { pkt with options := options }, buf.push (optionBytes prev o))) ∨
    (¬ (o.value.len ≤ 65805 ∧ buf.len + (optionBytes prev o).length ≤ buf.size) ∧
      ∃ ret, ret ≠ .ok ∧ coapCommBuildSingleOption prev o index pkt buf = (ret, pkt, buf)) := by
  have hdelta := optionDelta_le prev o
  have hdbase : ¬ (coapCommGetExtensionBase (optionDelta prev o)).1 = coapExtendDeltaValueUint32 := by
    rw [extensionBase_reserved_iff]
    omega
  unfold coapCommBuildSingleOption
  simp only [hdbase, false_or, extensionBase_reserved_iff, ← extBytes_length]
  by_cases hlen : o.value.len ≤ 65805
  · rw [if_neg (by omega), CoapBuffer.room_of_le hle]
    have hbytes := optionBytes_length prev o
    by_cases hfit : buf.len + (optionBytes prev o).length ≤ buf.size
    · refine .inl ⟨hlen, hfit, ?_⟩
      rw [if_neg (by omega)]
      -- after the first byte there is room for the rest
      rw [buildExtension_eq _ _ (by
        rw [CoapBuffer.room_of_le (by simp; omega)]
        simp
        omega)]
      simp only
      rw [buildExtension_eq _ _ (by
        rw [CoapBuffer.room_of_le (by simp; omega)]
        simp
        omega)]
      simp only
      obtain ⟨dst', hdst⟩ := buildOptionData_eq (((buf.push [optionHead prev o]).push (extBytes (optionDelta prev o))).push
        (extBytes o.value.len)) o (pkt.options index) (by
          rw [CoapBuffer.room_of_le (by simp; omega)]
          simp
          omega)
      rw [optionHead] at hdst
      rw [hdst]
      refine ⟨Function.update pkt.options index { dst' with option := o.option }, ?_⟩
      simp only [CoapBuffer.push_push, optionBytes, optionHead, List.append_assoc]
    · refine .inr ⟨fun h => hfit h.2, .coapBufferShort, by decide, ?_⟩
      rw [if_pos (by omega)]
  · refine .inr ⟨fun h => hlen h.1, .coapUseReserved, by decide, ?_⟩
    rw [if_pos (by omega)]

/-! ## All options -/

def optionsBytes (prev : UInt16) : List BuildOption → List UInt8
  | [] => []
  | o :: os => optionBytes prev o ++ optionsBytes o.option os

theorem buildOptionLoop_cases (os : List BuildOption) (prev : UInt16) (index : ℕ) (pkt : CoapPacket)
    (buf : CoapBuffer) (hle : buf.len ≤ buf.size) :
    ((∀ o ∈ os, o.value.len ≤ 65805) ∧ buf.len + (optionsBytes prev os).length ≤ buf.size ∧
      ∃ options, buildOptionLoop prev index pkt buf os =
        (.ok, { pkt with options := options }, buf.push (optionsBytes prev os))) ∨
    (¬ ((∀ o ∈ os, o.value.len ≤ 65805) ∧ buf.len + (optionsBytes prev os).length ≤ buf.size) ∧
      (buildOptionLoop prev index pkt buf os).1 ≠ .ok ∧
      (buildOptionLoop prev index pkt buf os).2.2.size = buf.size) := by
  induction os generalizing prev index pkt buf with
  | nil => exact .inl ⟨by simp, by simpa [optionsBytes] using hle, pkt.options, by simp [buildOptionLoop, optionsBytes]⟩
  | cons o os ih =>
    unfold buildOptionLoop optionsBytes
    simp only [List.mem_cons, forall_eq_or_imp, List.length_append]
    rcases buildSingleOption_cases prev o index pkt buf hle with ⟨hlen, hfit, options, heq⟩ | ⟨hno, ret, hret, heq⟩
    · rw [heq, Built.andThen_of_ok rfl]
      have hsize : buf.len + (optionBytes prev o).length + (optionsBytes o.option os).length =
        buf.len + ((optionBytes prev o).length + (optionsBytes o.option os).length) := Nat.add_assoc _ _ _
      rcases ih o.option (index + 1) { pkt with options := options } (buf.push (optionBytes prev o)) hfit with
        ⟨hlens, hfits, options', hloop⟩ | ⟨hno, hloop⟩
      · refine .inl ⟨⟨hlen, hlens⟩, by rw [← hsize]; exact hfits, options', ?_⟩
        rw [← CoapBuffer.push_push]
        exact hloop
      · refine .inr ⟨fun h => hno ⟨h.1.2, by rw [CoapBuffer.push_len, CoapBuffer.push_size, hsize]; exact h.2⟩, hloop⟩
    · refine .inr ⟨fun h => hno ⟨h.1.1, by omega⟩, ?_⟩
      rw [heq, Built.andThen, if_neg hret]
      exact ⟨hret, rfl⟩

/-- The options the builder takes, whatever the buffer. -/
structure OptionsOk (os : List BuildOption) : Prop where
  num : os.length ≤ coapOptionMaxNum
  ascend : optionsAscend 0 os = true
  len : ∀ o ∈ os, o.value.len ≤ 65805

/-- The option builder succeeds exactly when it takes the options and they fit, and then it has
appended them and the payload marker. -/
theorem buildOption_cases (build : CoapBuildPacket) (pkt : CoapPacket) (buf : CoapBuffer) :
    (OptionsOk build.options ∧ buf.len + (optionsBytes 0 build.options).length ≤ buf.size ∧
      ∃ opNum options, coapCommBuildOption build pkt buf = (.ok, { pkt with opNum := opNum, options := options },
        buf.push (optionsBytes 0 build.options ++ [0xFF]))) ∨
    (¬ (OptionsOk build.options ∧ buf.len + (optionsBytes 0 build.options).length ≤ buf.size) ∧
      (coapCommBuildOption build pkt buf).1 ≠ .ok ∧ (coapCommBuildOption build pkt buf).2.2.size = buf.size) := by
  unfold coapCommBuildOption
  by_cases hle : buf.len ≤ buf.size
  · rw [if_neg (not_not.mpr hle)]
    by_cases hnil : build.options = []
    · rw [hnil, if_pos List.length_nil]
      exact .inl ⟨⟨by decide, rfl, by simp⟩, by simpa [optionsBytes] using hle, pkt.opNum, pkt.options, rfl⟩
    · have hlen : ¬ build.options.length = 0 := fun h => hnil (List.length_eq_zero_iff.mp h)
      rw [if_neg hlen]
      by_cases hnum : build.options.length ≤ coapOptionMaxNum
      · rw [if_neg (by omega)]
        cases hasc : optionsAscend 0 build.options with
        | false =>
          rw [if_pos rfl]
          exact .inr ⟨fun h => by simpa [hasc] using h.1.ascend, by simp, rfl⟩
        | true =>
          rw [if_neg (by decide)]
          rcases buildOptionLoop_cases build.options 0 0 pkt buf hle with
            ⟨hlens, hfit, options, hloop⟩ | ⟨hno, hloop, hsize⟩
          · refine .inl ⟨⟨hnum, hasc, hlens⟩, hfit, build.options.length, options, ?_⟩
            rw [hloop]
            simp only [ne_eq, not_true_eq_false, if_false, CoapBuffer.push_push]
          · refine .inr ⟨fun h => hno ⟨h.1.len, h.2⟩, ?_⟩
            simp only [ne_eq, hloop, not_false_eq_true, if_true, CoapBuffer.push_size, hsize, and_self]
      · rw [if_pos (by omega)]
        exact .inr ⟨fun h => hnum h.1.num, by simp, rfl⟩
  · rw [if_pos hle]
    exact .inr ⟨fun h => hle (by omega), by simp, rfl⟩

theorem buildOption_ok_iff (build : CoapBuildPacket) (pkt : CoapPacket) (buf : CoapBuffer) :
    (coapCommBuildOption build pkt buf).1 = .ok ↔
      OptionsOk build.options ∧ buf.len + (optionsBytes 0 build.options).length ≤ buf.size := by
  rcases buildOption_cases build pkt buf with ⟨hopts, hfit, opNum, options, heq⟩ | ⟨hno, hne, -⟩
  · rw [heq]
    exact ⟨fun _ => ⟨hopts, hfit⟩, fun _ => rfl⟩
  · exact ⟨fun h => absurd h hne, fun h => absurd h hno⟩

theorem buildOption_ok {build : CoapBuildPacket} {pkt : CoapPacket} {buf : CoapBuffer}
    (h : (coapCommBuildOption build pkt buf).1 = .ok) : ∃ opNum options,
      (coapCommBuildOption build pkt buf).2 = ({ pkt with opNum := opNum, options := options },
        buf.push (optionsBytes 0 build.options ++ [0xFF])) := by
  rcases buildOption_cases build pkt buf with ⟨-, -, opNum, options, heq⟩ | ⟨-, hne, -⟩
  · exact ⟨opNum, options, by rw [heq]⟩
  · exact absurd h hne

theorem buildOption_size (build : CoapBuildPacket) (pkt : CoapPacket) (buf : CoapBuffer) :
    (coapCommBuildOption build pkt buf).2.2.size = buf.size := by
  rcases buildOption_cases build pkt buf with ⟨-, -, opNum, options, heq⟩ | ⟨-, -, hsize⟩
  · rw [heq, CoapBuffer.push_size]
  · exact hsize

/-! ## Parsing options -/

theorem optionHead_toNat (prev : UInt16) (o : BuildOption) (hlen : o.value.len ≤ 65805) :
    (optionHead prev o).toNat =
      (coapCommGetExtensionBase (optionDelta prev o)).1 * 16 + (coapCommGetExtensionBase o.value.len).1 := by
  have h1 := extensionBase_le (optionDelta prev o) (by have := optionDelta_le prev o; omega)
  have h2 := extensionBase_le o.value.len hlen
  rw [optionHead, toNat_toUInt8]
  omega

theorem optionHead_ne_marker (prev : UInt16) (o : BuildOption) (hlen : o.value.len ≤ 65805) :
    optionHead prev o ≠ 0xFF := by
  intro h
  have h1 := extensionBase_le (optionDelta prev o) (by have := optionDelta_le prev o; omega)
  have h2 := extensionBase_le o.value.len hlen
  have h3 := optionHead_toNat prev o hlen
  rw [h] at h3
  have : (0xFF : UInt8).toNat = 255 := rfl
  omega

/-- Where the value of an option starts that starts at `pos`. -/
def valuePos (prev : UInt16) (o : BuildOption) (pos : ℕ) : ℕ :=
  pos + 1 + (extBytes (optionDelta prev o)).length + (extBytes o.value.len).length

theorem parseSingleOption_optionBytes (raw : CoapRaw) (pos : ℕ) (prev : UInt16) (o : BuildOption)
    (hlen : o.value.len ≤ 65805) (hord : prev ≤ o.option) (hmem : Holds raw.data pos (optionBytes prev o))
    (hfit : pos + (optionBytes prev o).length ≤ raw.len) :
    coapCommParseSingleOption prev raw pos =
      .ok (⟨prev + (readBack (optionDelta prev o)).toUInt16,
        ⟨some (valuePos prev o pos), readBack o.value.len⟩⟩, valuePos prev o pos + readBack o.value.len) := by
  have hdelta := optionDelta_le prev o
  have hrd := readBack_le (optionDelta prev o)
  have hrl := readBack_le o.value.len
  have hbytes := optionBytes_length prev o
  have hbase1 := extensionBase_le (optionDelta prev o) (by omega)
  have hbase2 := extensionBase_le o.value.len hlen
  -- the parts of the option in memory
  unfold optionBytes at hmem
  rw [holds_append, holds_append, holds_append] at hmem
  obtain ⟨⟨⟨hhead, hext1⟩, hext2⟩, -⟩ := hmem
  simp only [List.length_append, List.length_singleton, ← Nat.add_assoc] at hext1 hext2
  have hbyte : raw.data pos = optionHead prev o := hhead.getElem 0 Nat.zero_lt_one
  have hsum : prev.toNat + optionDelta prev o = o.option.toNat := by
    rw [optionDelta, UInt16.toNat_sub_of_le _ _ hord]
    have := UInt16.le_iff_toNat_le.mp hord
    omega
  have hlt := o.option.toNat_lt
  unfold coapCommParseSingleOption coapOptionMinLen
  rw [hbyte, optionHead_toNat prev o hlen]
  have hdiv : ((coapCommGetExtensionBase (optionDelta prev o)).1 * 16 +
      (coapCommGetExtensionBase o.value.len).1) / 16 = (coapCommGetExtensionBase (optionDelta prev o)).1 := by
    omega
  have hmod : ((coapCommGetExtensionBase (optionDelta prev o)).1 * 16 +
      (coapCommGetExtensionBase o.value.len).1) % 16 = (coapCommGetExtensionBase o.value.len).1 := by
    omega
  simp only [hdiv, hmod, extensionBase_reserved_iff]
  rw [if_neg (by omega), if_neg (by omega), parseExtension_extBytes raw _ _ (by omega) hext1 (by omega)]
  dsimp only
  rw [if_neg (by omega), parseExtension_extBytes raw _ _ hlen hext2 (by omega)]
  dsimp only
  rw [if_neg (by omega)]
  rfl

/-! ## Reading options back -/

/-- The delta and the length of no option are among the values that are read back as another. -/
def Plain (prev : UInt16) : List BuildOption → Prop
  | [] => True
  | o :: os => (optionDelta prev o ≠ 269 ∧ o.value.len ≠ 269 ∧ o.value.len ≠ 65805) ∧ Plain o.option os

/-- Entry `n + i` of the parsed options is option `i` of the list, number and value. -/
def Recovered (raw : CoapRaw) (n : ℕ) (os : List BuildOption) (options : ℕ → CoapOption) : Prop :=
  ∀ i (hi : i < os.length), (options (n + i)).option = os[i].option ∧
    raw.read (options (n + i)).value = os[i].value.sent

variable {prev : UInt16} {o : BuildOption} {os : List BuildOption}

theorem optionsAscend_cons
    (h : optionsAscend prev (o :: os) = true) : prev ≤ o.option ∧ optionsAscend o.option os = true := by
  unfold optionsAscend at h
  rw [Bool.and_eq_true, Bool.not_eq_true', decide_eq_false_iff_not] at h
  exact ⟨UInt16.not_lt.mp h.1, h.2⟩

variable {pos pos' : ℕ} {delta : UInt16}

theorem parseOptionsLoop_frame (raw : CoapRaw) (k : ℕ) {n m : ℕ}
    {options options' : ℕ → CoapOption} (h : parseOptionsLoop raw k n delta options pos = .ok (m, options', pos'))
    (j : ℕ) (hj : j < n) : options' j = options j := by
  induction k generalizing n delta options pos with
  | zero =>
    unfold parseOptionsLoop at h
    split at h
    · cases h
    · cases h
      rfl
  | succ k ih =>
    unfold parseOptionsLoop at h
    split at h
    · split at h
      · cases h
      · rw [ih h (by omega), Function.update_of_ne (by omega)]
    · cases h
      rfl

section Single
variable {raw : CoapRaw} {pos : ℕ} {prev : UInt16} {o : BuildOption}

theorem readBack_single_iff (hord : prev ≤ o.option) :
    (prev + (readBack (optionDelta prev o)).toUInt16 = o.option ∧ readBack o.value.len = o.value.len) ↔
      optionDelta prev o ≠ 269 ∧ o.value.len ≠ 269 ∧ o.value.len ≠ 65805 := by
  have hdelta := optionDelta_le prev o
  have hrd := readBack_le (optionDelta prev o)
  have hlt := o.option.toNat_lt
  have hsum : prev.toNat + optionDelta prev o = o.option.toNat := by
    rw [optionDelta, UInt16.toNat_sub_of_le _ _ hord]
    have := UInt16.le_iff_toNat_le.mp hord
    omega
  have hnum : prev + (readBack (optionDelta prev o)).toUInt16 = o.option ↔
      readBack (optionDelta prev o) = optionDelta prev o := by
    rw [← UInt16.toNat_inj, UInt16.toNat_add, Nat.toUInt16_eq, UInt16.toNat_ofNat']
    omega
  rw [hnum, readBack_eq_iff, readBack_eq_iff]
  omega

theorem read_value (hlen : readBack o.value.len = o.value.len) (hmem : Holds raw.data pos (optionBytes prev o)) :
    raw.read ⟨some (valuePos prev o pos), readBack o.value.len⟩ = o.value.sent := by
  unfold optionBytes at hmem
  rw [holds_append] at hmem
  have hval := hmem.2
  unfold Holds at hval
  simp only [List.length_append, List.length_singleton, ← Nat.add_assoc, BuildData.sent_length] at hval
  rw [CoapRaw.read, hlen]
  exact hval

end Single

variable {raw : CoapRaw}

theorem optionsBytes_head (hmem : Holds raw.data pos (optionsBytes prev (o :: os) ++ [0xFF])) :
    raw.data pos = optionHead prev o ∧ Holds raw.data pos (optionBytes prev o) ∧
      Holds raw.data (pos + (optionBytes prev o).length) (optionsBytes o.option os ++ [0xFF]) := by
  rw [optionsBytes, List.append_assoc, holds_append] at hmem
  refine ⟨?_, hmem.1, hmem.2⟩
  have h0 := hmem.1.getElem 0 (by rw [optionBytes_length]; omega)
  exact h0

theorem valuePos_add (prev : UInt16) (o : BuildOption) (pos : ℕ) :
    valuePos prev o pos + o.value.len = pos + (optionBytes prev o).length := by
  rw [optionBytes_length, valuePos]
  omega

theorem recovered_cons (raw : CoapRaw) (n : ℕ) (o : BuildOption) (os : List BuildOption) (options : ℕ → CoapOption) :
    Recovered raw n (o :: os) options ↔
      ((options n).option = o.option ∧ raw.read (options n).value = o.value.sent) ∧
        Recovered raw (n + 1) os options := by
  constructor
  · intro h
    refine ⟨h 0 (Nat.succ_pos _), fun i hi => ?_⟩
    have := h (i + 1) (by rw [List.length_cons]; omega)
    rwa [← Nat.add_assoc, Nat.add_right_comm] at this
  · rintro ⟨h0, hs⟩ i hi
    cases i with
    | zero => exact h0
    | succ i =>
      have := hs i (by rw [List.length_cons] at hi; omega)
      rwa [Nat.add_right_comm] at this

theorem parseOptionsLoop_cons
    (k n : ℕ) (options : ℕ → CoapOption) (hord : prev ≤ o.option) (hlen : o.value.len ≤ 65805)
    (hmem : Holds raw.data pos (optionsBytes prev (o :: os) ++ [0xFF]))
    (hfit : pos + (optionBytes prev o).length ≤ raw.len) :
    parseOptionsLoop raw (k + 1) n prev options pos =
      parseOptionsLoop raw k (n + 1) (prev + (readBack (optionDelta prev o)).toUInt16)
        (Function.update options n ⟨prev + (readBack (optionDelta prev o)).toUInt16,
          ⟨some (valuePos prev o pos), readBack o.value.len⟩⟩) (valuePos prev o pos + readBack o.value.len) := by
  obtain ⟨hbyte, hopt, -⟩ := optionsBytes_head hmem
  have hpos : pos < raw.len ∧ raw.data pos ≠ 0xFF := by
    rw [hbyte]
    rw [optionBytes_length] at hfit
    exact ⟨by omega, optionHead_ne_marker prev o hlen⟩
  rw [parseOptionsLoop, if_pos hpos, parseSingleOption_optionBytes raw pos prev o hlen hord hopt hfit]

/-- Plain options are recovered, from any message that has the same bytes there, and the parser stops
at the payload marker. -/
theorem parseOptionsLoop_plain (raw : CoapRaw) (os : List BuildOption) (k n : ℕ) (prev : UInt16)
    (options : ℕ → CoapOption) (pos : ℕ) (hk : os.length ≤ k) (hasc : optionsAscend prev os = true)
    (hlen : ∀ o ∈ os, o.value.len ≤ 65805) (hmem : Holds raw.data pos (optionsBytes prev os ++ [0xFF]))
    (hfit : pos + (optionsBytes prev os).length < raw.len) (hplain : Plain prev os) :
    ∃ options', parseOptionsLoop raw k n prev options pos =
      .ok (n + os.length, options', pos + (optionsBytes prev os).length) ∧
      ∀ raw' : CoapRaw, Holds raw'.data pos (optionsBytes prev os ++ [0xFF]) → Recovered raw' n os options' := by
  induction os generalizing k n prev options pos with
  | nil =>
    have hmark : raw.data pos = 0xFF := hmem.getElem 0 (by simp [optionsBytes])
    refine ⟨options, ?_, fun _ _ i hi => absurd hi (Nat.not_lt_zero i)⟩
    cases k <;> simp [parseOptionsLoop, hmark, optionsBytes]
  | cons o os ih =>
    obtain ⟨hord, hasc'⟩ := optionsAscend_cons hasc
    have hlen0 := hlen o List.mem_cons_self
    obtain ⟨-, -, hrest⟩ := optionsBytes_head hmem
    rw [optionsBytes, List.length_append] at hfit
    obtain ⟨k, rfl⟩ : ∃ k', k = k' + 1 := ⟨k - 1, by rw [List.length_cons] at hk; omega⟩
    obtain ⟨hnum, hlength⟩ := (readBack_single_iff hord).mpr hplain.1
    rw [parseOptionsLoop_cons k n options hord hlen0 hmem (by omega), hnum, hlength, valuePos_add]
    obtain ⟨options', hok, hrec⟩ := ih k (n + 1) o.option
      (Function.update options n ⟨o.option, ⟨some (valuePos prev o pos), o.value.len⟩⟩)
      (pos + (optionBytes prev o).length) (by rw [List.length_cons] at hk; omega) hasc'
      (fun o' ho' => hlen o' (List.mem_cons_of_mem _ ho')) hrest (by omega) hplain.2
    refine ⟨options', ?_, fun raw' hmem' => ?_⟩
    · rw [hok, optionsBytes, List.length_append, List.length_cons, Nat.add_assoc pos, Nat.add_assoc n,
        Nat.add_comm 1]
    · obtain ⟨-, hopt, hrest'⟩ := optionsBytes_head hmem'
      refine (recovered_cons raw' n o os options').mpr ⟨?_, hrec raw' hrest'⟩
      have hread := read_value hlength hopt
      rw [parseOptionsLoop_frame raw k hok n (Nat.lt_succ_self n), Function.update_self]
      rw [hlength] at hread
      exact ⟨rfl, hread⟩

theorem plain_of_recovered (raw raw' : CoapRaw) (os : List BuildOption) (k n : ℕ) (prev : UInt16)
    (options : ℕ → CoapOption) (pos : ℕ) (hk : os.length ≤ k) (hasc : optionsAscend prev os = true)
    (hlen : ∀ o ∈ os, o.value.len ≤ 65805) (hmem : Holds raw.data pos (optionsBytes prev os ++ [0xFF]))
    (hfit : pos + (optionsBytes prev os).length < raw.len) {m : ℕ} {options' : ℕ → CoapOption}
    (hok : parseOptionsLoop raw k n prev options pos = .ok (m, options', pos'))
    (hrec : Recovered raw' n os options') : Plain prev os := by
  induction os generalizing k n prev options pos with
  | nil => trivial
  | cons o os ih =>
    obtain ⟨hord, hasc'⟩ := optionsAscend_cons hasc
    have hlen0 := hlen o List.mem_cons_self
    obtain ⟨-, -, hrest⟩ := optionsBytes_head hmem
    rw [optionsBytes, List.length_append] at hfit
    obtain ⟨k, rfl⟩ : ∃ k', k = k' + 1 := ⟨k - 1, by rw [List.length_cons] at hk; omega⟩
    rw [parseOptionsLoop_cons k n options hord hlen0 hmem (by omega)] at hok
    obtain ⟨⟨hopt, hval⟩, hrec'⟩ := (recovered_cons raw' n o os options').mp hrec
    rw [parseOptionsLoop_frame raw k hok n (Nat.lt_succ_self n), Function.update_self] at hopt hval
    have hlength := congrArg List.length hval
    rw [CoapRaw.read, load_length, BuildData.sent_length] at hlength
    dsimp only at hopt hlength
    rw [hopt, hlength, valuePos_add] at hok
    exact ⟨(readBack_single_iff hord).mp ⟨hopt, hlength⟩,
      ih k (n + 1) o.option _ _ (by rw [List.length_cons] at hk; omega) hasc'
        (fun o' ho' => hlen o' (List.mem_cons_of_mem _ ho')) hrest (by omega) hok hrec'⟩

/-! ## Any options -/

theorem coapCommParseSingleOption_ge {o : CoapOption}
    (h : coapCommParseSingleOption delta raw pos = .ok (o, pos')) : delta ≤ o.option := by
  unfold coapCommParseSingleOption at h
  dsimp only at h
  split_ifs at h
  cases hdelta : coapCommParseExtension ((raw.data pos).toNat / 16) raw (pos + 1) with
  | error ret =>
    rw [hdelta] at h
    cases h
  | ok d =>
    rw [hdelta] at h
    dsimp only at h
    split_ifs at h with hbig
    cases hlen : coapCommParseExtension ((raw.data pos).toNat % 16) raw d.2 with
    | error ret =>
      rw [hlen] at h
      cases h
    | ok n =>
      rw [hlen] at h
      dsimp only at h
      split_ifs at h
      cases h
      -- the sum of the numbers does not wrap
      have hlt := delta.toNat_lt
      rw [UInt16.le_iff_toNat_le, UInt16.toNat_add, Nat.toUInt16, UInt16.toNat_ofNat']
      omega

theorem parseOptionsLoop_ascending {k opNum n p : ℕ} {options opts : ℕ → CoapOption}
    (h : parseOptionsLoop raw k opNum delta options pos = .ok (n, opts, p))
    (hasc : ∀ i j, i ≤ j → j < opNum → (options i).option ≤ (options j).option)
    (hdelta : ∀ i < opNum, (options i).option ≤ delta) :
    ∀ i j, i ≤ j → j < n → (opts i).option ≤ (opts j).option := by
  induction k generalizing opNum delta options pos with
  | zero =>
    rw [parseOptionsLoop] at h
    split_ifs at h
    cases h
    exact hasc
  | succ k ih =>
    rw [parseOptionsLoop] at h
    split_ifs at h
    · cases hone : coapCommParseSingleOption delta raw pos with
      | error ret =>
        rw [hone] at h
        cases h
      | ok r =>
        obtain ⟨o, pos'⟩ := r
        rw [hone] at h
        have hge := coapCommParseSingleOption_ge hone
        have hold : ∀ i < opNum, Function.update options opNum o i = options i :=
          fun i hi => Function.update_of_ne (Nat.ne_of_lt hi) _ _
        refine ih h ?_ ?_
        · intro i j hij hj
          rcases Nat.lt_succ_iff_lt_or_eq.mp hj with hj | rfl
          · rw [hold j hj, hold i (by omega)]
            exact hasc i j hij hj
          · rw [Function.update_self]
            rcases Nat.lt_or_eq_of_le hij with hij | rfl
            · rw [hold i hij]
              exact UInt16.le_trans (hdelta i hij) hge
            · rw [Function.update_self]
              exact UInt16.le_refl _
        · intro i hi
          rcases Nat.lt_succ_iff_lt_or_eq.mp hi with hi | rfl
          · rw [hold i hi]
            exact UInt16.le_trans (hdelta i hi) hge
          · rw [Function.update_self]
            exact UInt16.le_refl _
    · cases h
      exact hasc

end IotConnect.Coap
