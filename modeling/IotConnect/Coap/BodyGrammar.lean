import IotConnect.Coap.TcpBounds

/-! # The grammar of the body parsers

Which bytes `CoapCommParseToken`, `CoapCommParseOptions` and `CoapCommParsePayload` take one after the
other. The grammar speaks of bytes only; that the parsers accept what it derives, and nothing else, goes by
the extension, the option and the loop over the options. -/
namespace IotConnect.Coap
open Memory Foundations Logged
set_option autoImplicit false

/-! ## The grammar -/

/-- The half byte, its extension and the number they stand for. -/
inductive Extension : ℕ → List UInt8 → ℕ → Prop
  | zero {n : ℕ} (h : n < 13) : Extension n [] n
  | one (a : UInt8) : Extension 13 [a] (a.toNat + 13)
  | two (a b : UInt8) : Extension 14 [a, b] (a.toNat * 2 ^ 8 + b.toNat + 269)

/-- At most `k` options behind one with the given number, and then the end or a payload. -/
inductive OptionsTail : (number k : ℕ) → List UInt8 → Prop
  | finish (number k : ℕ) : OptionsTail number k []
  | payload (number k : ℕ) (payload : List UInt8) : OptionsTail number k (0xFF :: payload)
  | option {number k d : ℕ} {head : UInt8} {deltaExt lenExt value rest : List UInt8}
      (hdelta : Extension (head.toNat / 16) deltaExt d) (hlen : Extension (head.toNat % 16) lenExt value.length)
      (hnumber : number + d < 2 ^ 16) (hrest : OptionsTail (number + d) k rest) :
      OptionsTail number (k + 1) ([head] ++ deltaExt ++ lenExt ++ value ++ rest)

def BodyGrammar (tkl : ℕ) (bytes : List UInt8) : Prop :=
  ∃ token rest, bytes = token ++ rest ∧ token.length = tkl ∧ OptionsTail 0 coapOptionMaxNum rest

/-- The bytes from `pos` on. -/
def CoapRaw.rest (raw : CoapRaw) (pos : ℕ) : List UInt8 := load raw.data pos (raw.len - pos)

/-- Options `n` to `m` lie between `pos` and the end of the message, one behind the other. -/
def ViewsInside (raw : CoapRaw) (pos : ℕ) (options : ℕ → CoapOption) (n m : ℕ) : Prop :=
  ∀ i, n ≤ i → i < m → ∃ off, (options i).value.data = some off ∧ pos ≤ off ∧
    off + (options i).value.len ≤ raw.len ∧
    ∀ j, i < j → j < m → ∃ off', (options j).value.data = some off' ∧ off + (options i).value.len ≤ off'

section Rest
variable {raw : CoapRaw} {pos : ℕ}

theorem CoapRaw.rest_cons (h : pos < raw.len) : raw.rest pos = raw.data pos :: raw.rest (pos + 1) := by
  unfold CoapRaw.rest
  rw [← load_succ]
  congr 1
  omega

theorem CoapRaw.rest_end (h : raw.len ≤ pos) : raw.rest pos = [] := by
  rw [CoapRaw.rest, Nat.sub_eq_zero_of_le h, load_zero]

theorem CoapRaw.rest_append {l : List UInt8} (hmem : Holds raw.data pos l) (hend : pos + l.length ≤ raw.len) :
    raw.rest pos = l ++ raw.rest (pos + l.length) := by
  have hsplit : raw.len - pos = l.length + (raw.len - (pos + l.length)) := by omega
  rw [CoapRaw.rest, hsplit, load_add, hmem]
  rfl

theorem CoapRaw.rest_split {l rest : List UInt8} (hpos : pos ≤ raw.len) (h : raw.rest pos = l ++ rest) :
    Holds raw.data pos l ∧ pos + l.length ≤ raw.len ∧ rest = raw.rest (pos + l.length) := by
  have hlen : raw.len - pos = l.length + rest.length := by
    have := congrArg List.length h
    rwa [CoapRaw.rest, load_length, List.length_append] at this
  have hmem : Holds raw.data pos l := by
    rw [CoapRaw.rest, hlen, load_add] at h
    exact (List.append_inj h (load_length _ _ _)).1
  have hend : pos + l.length ≤ raw.len := by omega
  refine ⟨hmem, hend, ?_⟩
  rw [CoapRaw.rest_append hmem hend] at h
  exact (List.append_cancel_left h).symm

end Rest

/-! ## One option -/

section Single
variable {raw : CoapRaw} {pos pos' : ℕ}

theorem parseExtension_iff {n v : ℕ} (hn : n ≤ 14) (hpos : pos ≤ raw.len) :
    coapCommParseExtension n raw pos = .ok (v, pos') ↔
      ∃ ext, Extension n ext v ∧ Holds raw.data pos ext ∧ pos' = pos + ext.length ∧ pos' ≤ raw.len := by
  unfold coapCommParseExtension coapExtendDeltaValueUint8 coapExtendDeltaValueUint16 coapExtendDeltaValueUint32
    coapDeltaUint8AddNum coapDeltaUint16AddNum
  constructor
  · intro h
    split at h
    · rename_i h13
      split at h <;> cases h
      subst h13
      exact ⟨[raw.data pos], .one _, rfl, rfl, by omega⟩
    split at h
    · rename_i h14
      split at h <;> cases h
      subst h14
      exact ⟨[raw.data pos, raw.data (pos + 1)], .two _ _, rfl, rfl, by omega⟩
    rw [if_neg (by omega)] at h
    cases h
    exact ⟨[], .zero (by omega), rfl, rfl, hpos⟩
  · rintro ⟨ext, hext, hmem, rfl, hend⟩
    cases hext with
    | zero h => rw [if_neg (by omega), if_neg (by omega), if_neg (by omega)]; rfl
    | one a =>
      have ha : raw.data pos = a := hmem.getElem 0 Nat.zero_lt_one
      have hend : pos + 1 ≤ raw.len := hend
      rw [if_pos rfl, if_neg (by omega), ha]
      rfl
    | two a b =>
      have ha : raw.data pos = a := hmem.getElem 0 (by simp)
      have hb : raw.data (pos + 1) = b := hmem.getElem 1 (by simp)
      have hend : pos + 2 ≤ raw.len := hend
      rw [if_neg (by decide), if_pos rfl, if_neg (by omega), ha, hb]
      rfl

theorem Extension.nibble_lt {n v : ℕ} {ext : List UInt8} (h : Extension n ext v) : n ≤ 14 := by
  cases h <;> omega

/-- The option parser takes an option of the grammar, and its view is the value. -/
theorem parseSingleOption_iff {delta : UInt16} {o : CoapOption} (hpos : pos ≤ raw.len) :
    coapCommParseSingleOption delta raw pos = .ok (o, pos') ↔
      ∃ head deltaExt lenExt value d, Holds raw.data pos ([head] ++ deltaExt ++ lenExt ++ value) ∧
        Extension (head.toNat / 16) deltaExt d ∧ Extension (head.toNat % 16) lenExt value.length ∧
        delta.toNat + d < 2 ^ 16 ∧ pos' = pos + ([head] ++ deltaExt ++ lenExt ++ value).length ∧ pos' ≤ raw.len ∧
        o = ⟨delta + d.toUInt16, ⟨some (pos + ([head] ++ deltaExt ++ lenExt).length), value.length⟩⟩ := by
  have hdelta := delta.toNat_lt
  unfold coapCommParseSingleOption coapOptionMinLen coapExtendDeltaValueUint32
  constructor
  · intro h
    split at h
    · cases h
    dsimp only at h
    split at h
    · cases h
    rename_i hshort hreserved
    have hbyte := (raw.data pos).toNat_lt
    split at h
    · cases h
    rename_i d pos1 hd
    obtain ⟨deltaExt, hdext, hdmem, rfl, hdend⟩ := (parseExtension_iff (by omega) (by omega)).mp hd
    split at h
    · cases h
    split at h
    · cases h
    rename_i l pos2 hl
    obtain ⟨lenExt, hlext, hlmem, rfl, hlend⟩ := (parseExtension_iff (by omega) (by omega)).mp hl
    split at h
    · cases h
    cases h
    refine ⟨raw.data pos, deltaExt, lenExt, load raw.data (pos + 1 + deltaExt.length + lenExt.length) l, d, ?_, hdext,
      by rw [load_length]; exact hlext, by omega, ?_, by omega, ?_⟩
    · simp only [holds_append, List.length_append, List.length_singleton, ← Nat.add_assoc]
      exact ⟨⟨⟨rfl, hdmem⟩, hlmem⟩, by rw [Holds, load_length]⟩
    · simp only [List.length_append, List.length_singleton, load_length, Nat.add_assoc]
    · simp only [List.length_append, List.length_singleton, load_length, Nat.add_assoc]
  · rintro ⟨head, deltaExt, lenExt, value, d, hmem, hdext, hlext, hnumber, rfl, hend, rfl⟩
    have hd14 := hdext.nibble_lt
    have hl14 := hlext.nibble_lt
    simp only [holds_append, List.length_append, List.length_singleton, ← Nat.add_assoc] at hmem hend
    obtain ⟨⟨⟨hhead, hdmem⟩, hlmem⟩, -⟩ := hmem
    have hbyte : raw.data pos = head := hhead.getElem 0 Nat.zero_lt_one
    rw [if_neg (by omega), hbyte]
    dsimp only
    rw [if_neg (by omega), (parseExtension_iff hd14 (by omega)).mpr ⟨deltaExt, hdext, hdmem, rfl, by omega⟩]
    dsimp only
    rw [if_neg (by omega), (parseExtension_iff hl14 (by omega)).mpr ⟨lenExt, hlext, hlmem, rfl, by omega⟩]
    dsimp only
    rw [if_neg (by omega)]
    simp only [List.length_append, List.length_singleton, Nat.add_assoc]

theorem toNat_add_toUInt16 {delta : UInt16} {d : ℕ} (h : delta.toNat + d < 2 ^ 16) :
    (delta + d.toUInt16).toNat = delta.toNat + d := by
  rw [UInt16.toNat_add, Nat.toUInt16_eq, UInt16.toNat_ofNat']
  omega

end Single

/-! ## All options -/

section Loop
variable {raw : CoapRaw}

theorem optionsTail_of_stop {pos : ℕ} (h : ¬ (pos < raw.len ∧ raw.data pos ≠ 0xFF)) (number k : ℕ) :
    OptionsTail number k (raw.rest pos) := by
  by_cases hpos : pos < raw.len
  · have hmark : raw.data pos = 0xFF := not_not.mp fun hne => h ⟨hpos, hne⟩
    rw [CoapRaw.rest_cons hpos, hmark]
    exact .payload _ _ _
  · rw [CoapRaw.rest_end (Nat.le_of_not_lt hpos)]
    exact .finish _ _

/-- Where an option starts, the grammar derives one, if any are left. -/
theorem OptionsTail.of_option {pos number k : ℕ} (hpos : pos < raw.len) (hbyte : raw.data pos ≠ 0xFF)
    (h : OptionsTail number k (raw.rest pos)) : ∃ k' head deltaExt lenExt value d, k = k' + 1 ∧
      Holds raw.data pos ([head] ++ deltaExt ++ lenExt ++ value) ∧
      pos + ([head] ++ deltaExt ++ lenExt ++ value).length ≤ raw.len ∧
      Extension (head.toNat / 16) deltaExt d ∧ Extension (head.toNat % 16) lenExt value.length ∧
      number + d < 2 ^ 16 ∧
      OptionsTail (number + d) k' (raw.rest (pos + ([head] ++ deltaExt ++ lenExt ++ value).length)) := by
  have hcons := CoapRaw.rest_cons hpos
  generalize hbytes : raw.rest pos = bytes at h hcons
  cases h with
  | finish => cases hcons
  | payload _ _ payload =>
    rw [List.cons.injEq] at hcons
    exact absurd hcons.1.symm hbyte
  | option hdelta hlen hnumber hrest =>
    obtain ⟨hmem, hend, rfl⟩ := CoapRaw.rest_split hpos.le hbytes
    exact ⟨_, _, _, _, _, _, rfl, hmem, hend, hdelta, hlen, hnumber, hrest⟩

theorem parseOptionsLoop_iff (k n : ℕ) (delta : UInt16) (options : ℕ → CoapOption) {pos : ℕ} (hpos : pos ≤ raw.len) :
    (∃ r, parseOptionsLoop raw k n delta options pos = .ok r) ↔ OptionsTail delta.toNat k (raw.rest pos) := by
  induction k generalizing n delta options pos with
  | zero =>
    unfold parseOptionsLoop
    by_cases hgo : pos < raw.len ∧ raw.data pos ≠ 0xFF
    · rw [if_pos hgo]
      refine iff_of_false (by rintro ⟨r, hr⟩; cases hr) fun h => ?_
      obtain ⟨k', -, -, -, -, -, hk, -⟩ := h.of_option hgo.1 hgo.2
      cases hk
    · rw [if_neg hgo]
      exact iff_of_true ⟨_, rfl⟩ (optionsTail_of_stop hgo _ _)
  | succ k ih =>
    unfold parseOptionsLoop
    by_cases hgo : pos < raw.len ∧ raw.data pos ≠ 0xFF
    swap
    · rw [if_neg hgo]
      exact iff_of_true ⟨_, rfl⟩ (optionsTail_of_stop hgo _ _)
    rw [if_pos hgo]
    constructor
    · rintro ⟨r, hr⟩
      split at hr
      · cases hr
      rename_i o pos' hsingle
      obtain ⟨head, deltaExt, lenExt, value, d, hmem, hd, hl, hnumber, rfl, hend, rfl⟩ :=
        (parseSingleOption_iff hpos).mp hsingle
      have hrest := (ih _ _ _ hend).mp ⟨r, hr⟩
      rw [toNat_add_toUInt16 hnumber] at hrest
      rw [CoapRaw.rest_append hmem hend]
      exact .option hd hl hnumber hrest
    · intro h
      obtain ⟨k', head, deltaExt, lenExt, value, d, hk, hmem, hend, hd, hl, hnumber, hrest⟩ := h.of_option hgo.1 hgo.2
      cases hk
      rw [(parseSingleOption_iff hpos).mpr ⟨head, deltaExt, lenExt, value, d, hmem, hd, hl, hnumber, rfl, hend, rfl⟩]
      refine (ih _ _ _ hend).mpr ?_
      rw [toNat_add_toUInt16 hnumber]
      exact hrest

theorem parseOptionsLoop_views (k : ℕ) {n m pos pos' : ℕ} {delta : UInt16} {options options' : ℕ → CoapOption}
    (hpos : pos ≤ raw.len) (h : parseOptionsLoop raw k n delta options pos = .ok (m, options', pos')) :
    ViewsInside raw pos options' n m := by
  induction k generalizing n delta options pos with
  | zero =>
    unfold parseOptionsLoop at h
    split at h <;> cases h
    intro i hi him
    omega
  | succ k ih =>
    unfold parseOptionsLoop at h
    split at h
    · split at h
      · cases h
      rename_i o pos1 hsingle
      obtain ⟨head, deltaExt, lenExt, value, d, -, -, -, -, rfl, hend, ho⟩ := (parseSingleOption_iff hpos).mp hsingle
      have hrest := ih hend h
      have hfirst : options' n = o := by
        rw [parseOptionsLoop_frame raw k h n (Nat.lt_succ_self n), Function.update_self]
      have hsum : ([head] ++ deltaExt ++ lenExt ++ value).length = ([head] ++ deltaExt ++ lenExt).length + value.length :=
        List.length_append
      rw [hsum, ← Nat.add_assoc] at hend hrest
      intro i hi him
      rcases Nat.eq_or_lt_of_le hi with rfl | hlt
      · rw [hfirst, ho]
        refine ⟨_, rfl, Nat.le_add_right _ _, hend, fun j hj hjm => ?_⟩
        obtain ⟨off, hoff, hle, -, -⟩ := hrest j hj hjm
        exact ⟨off, hoff, hle⟩
      · obtain ⟨off, hoff, hle, hin, hothers⟩ := hrest i hlt him
        exact ⟨off, hoff, by omega, hin, hothers⟩
    · cases h
      intro i hi him
      omega

theorem parseOptionsLoop_end (k : ℕ) {n m pos pos' : ℕ} {delta : UInt16} {options options' : ℕ → CoapOption}
    (hpos : pos ≤ raw.len) (h : parseOptionsLoop raw k n delta options pos = .ok (m, options', pos')) :
    pos' ≤ raw.len := by
  induction k generalizing n delta options pos with
  | zero =>
    unfold parseOptionsLoop at h
    split at h <;> cases h
    exact hpos
  | succ k ih =>
    unfold parseOptionsLoop at h
    split at h
    · split at h
      · cases h
      rename_i o pos1 hsingle
      exact ih (parseSingleOption_end hsingle) h
    · cases h
      exact hpos

end Loop

/-! ## The body -/

section Body
variable {raw : CoapRaw} {pkt : CoapPacket} {pos : ℕ}

theorem parseToken_iff {r : CoapPacket × ℕ} : coapCommParseToken pkt raw pos = .ok r ↔
    raw.len ≠ 0 ∧ pkt.header.tkl.val ≤ coapTokenMaxLen ∧ pos + pkt.header.tkl.val ≤ raw.len ∧
      r = ({ pkt with token := store pkt.token 0 (load raw.data pos pkt.header.tkl.val) }, pos + pkt.header.tkl.val) := by
  unfold coapCommParseToken
  dsimp only
  by_cases hin : raw.len ≠ 0 ∧ pos ≤ raw.len
  swap
  · rw [if_pos hin]
    exact iff_of_false (fun h => by cases h) fun h => hin ⟨h.1, by omega⟩
  rw [if_neg (not_not.mpr hin)]
  by_cases h0 : pkt.header.tkl.val = 0
  · rw [if_pos h0, h0, load_zero, store_nil, Except.ok.injEq]
    exact ⟨fun h => ⟨hin.1, Nat.zero_le _, hin.2, h.symm⟩, fun h => h.2.2.2.symm⟩
  rw [if_neg h0]
  by_cases hend : pos + pkt.header.tkl.val ≤ raw.len
  swap
  · rw [if_pos (by omega)]
    exact iff_of_false (fun h => by cases h) fun h => hend h.2.2.1
  rw [if_neg (by omega)]
  by_cases h8 : pkt.header.tkl.val ≤ coapTokenMaxLen
  · rw [memcpyS_of_le _ _ _ _ (by decide) (by rw [load_length]; exact h8)]
    dsimp only
    rw [Except.ok.injEq]
    exact ⟨fun h => ⟨hin.1, h8, hend, h.symm⟩, fun h => h.2.2.2.symm⟩
  · rw [memcpyS, if_neg (by rw [load_length]; exact fun h => h8 h.2)]
    exact iff_of_false (fun h => by cases h) fun h => h8 h.2.1

theorem parseOptions_iff (hzero : raw.len ≠ 0) (hpos : pos ≤ raw.len) :
    (∃ r, coapCommParseOptions pkt raw pos = .ok r) ↔ OptionsTail 0 coapOptionMaxNum (raw.rest pos) := by
  have hloop := parseOptionsLoop_iff coapOptionMaxNum 0 0 pkt.options hpos
  unfold coapCommParseOptions
  rw [if_neg (not_not.mpr ⟨hzero, hpos⟩)]
  refine Iff.trans ?_ hloop
  cases parseOptionsLoop raw coapOptionMaxNum 0 0 pkt.options pos with
  | error ret => exact iff_of_false (by rintro ⟨r, hr⟩; cases hr) (by rintro ⟨r, hr⟩; cases hr)
  | ok r => exact iff_of_true ⟨_, rfl⟩ ⟨_, rfl⟩

theorem parseOptions_views {r : CoapPacket × ℕ} (hpos : pos ≤ raw.len)
    (h : coapCommParseOptions pkt raw pos = .ok r) : r.2 ≤ raw.len ∧ ViewsInside raw pos r.1.options 0 r.1.opNum := by
  obtain ⟨opNum, options, hloop, hr⟩ := parseOptions_ok h
  rw [hr]
  exact ⟨parseOptionsLoop_end _ hpos hloop, parseOptionsLoop_views _ hpos hloop⟩

theorem parsePayload_of_le (hzero : raw.len ≠ 0) (hpos : pos ≤ raw.len) (pkt : CoapPacket) :
    ∃ r, coapCommParsePayload pkt raw pos = .ok r := by
  unfold coapCommParsePayload
  rw [if_neg (not_not.mpr ⟨hzero, hpos⟩)]
  split <;> exact ⟨_, rfl⟩

theorem parseBody_iff : (∃ pkt', parseBody pkt raw pos = .ok pkt') ↔
    raw.len ≠ 0 ∧ pos ≤ raw.len ∧ pkt.header.tkl.val ≤ coapTokenMaxLen ∧
      BodyGrammar pkt.header.tkl.val (raw.rest pos) := by
  constructor
  · rintro ⟨pkt', h⟩
    obtain ⟨r, r', p, htoken, hoptions, -⟩ := parseBody_ok h
    obtain ⟨hzero, h8, hend, rfl⟩ := parseToken_iff.mp htoken
    refine ⟨hzero, by omega, h8, load raw.data pos pkt.header.tkl.val, raw.rest (pos + pkt.header.tkl.val), ?_,
      load_length _ _ _, (parseOptions_iff hzero hend).mp ⟨r', hoptions⟩⟩
    have hrest := CoapRaw.rest_append (l := load raw.data pos pkt.header.tkl.val)
      (by rw [Holds, load_length]) (by rw [load_length]; exact hend)
    rwa [load_length] at hrest
  · rintro ⟨hzero, hpos, h8, token, rest, hbytes, htkl, htail⟩
    obtain ⟨-, hend, rfl⟩ := CoapRaw.rest_split hpos hbytes
    rw [htkl] at hend htail
    have htoken : coapCommParseToken pkt raw pos = .ok _ := parseToken_iff.mpr ⟨hzero, h8, hend, rfl⟩
    obtain ⟨r', hoptions⟩ := (parseOptions_iff hzero hend).mpr htail
    obtain ⟨r'', hpayload⟩ := parsePayload_of_le hzero (parseOptions_views hend hoptions).1 r'.1
    refine ⟨r''.1, ?_⟩
    unfold parseBody
    rw [htoken]
    dsimp only
    rw [hoptions]
    dsimp only
    rw [hpayload]

theorem parseBody_views {pkt' : CoapPacket} (h : parseBody pkt raw pos = .ok pkt') :
    ViewsInside raw (pos + pkt.header.tkl.val) pkt'.options 0 pkt'.opNum := by
  obtain ⟨r, r', p, htoken, hoptions, hpayload⟩ := parseBody_ok h
  obtain ⟨-, -, hend, rfl⟩ := parseToken_iff.mp htoken
  obtain ⟨payload, rfl⟩ := parsePayload_ok hpayload
  exact (parseOptions_views hend hoptions).2

end Body

/-- **The body parsers accept what the grammar derives, at a position of a message that is not empty and for a
token of at most eight bytes; the options they find lie behind one another in the message, and they read
nothing outside of it.** Within 65804 bytes of `2 ^ 32` the end of a value can wrap. -/
theorem checkedBody_grammar (pkt : CoapPacket) (raw : CoapRaw) (pos : ℕ) (hlen : raw.len + 65804 < 2 ^ 32) :
    ((∃ pkt', (checkedBody pkt raw pos).result = .ok pkt') ↔
      raw.len ≠ 0 ∧ pos ≤ raw.len ∧ pkt.header.tkl.val ≤ coapTokenMaxLen ∧
        BodyGrammar pkt.header.tkl.val (raw.rest pos)) ∧
      (∀ pkt', (checkedBody pkt raw pos).result = .ok pkt' →
        ViewsInside raw (pos + pkt.header.tkl.val) pkt'.options 0 pkt'.opNum) ∧
      (checkedBody pkt raw pos).All (Access.Inside raw.len) := by
  rw [checkedBody_result pkt pos hlen]
  exact ⟨parseBody_iff, fun _ => parseBody_views, checkedBody_inside (by omega) pkt⟩

/-- One byte option 11 with the value 7, then the marker and the payload 8. -/
def sampleBody : CoapRaw := ⟨ofList [0xB1, 7, 0xFF, 8] 0, 4⟩

theorem checkedBody_grammar_sample : (∃ pkt', (checkedBody CoapPacket.init sampleBody 0).result = .ok pkt') ∧
    (checkedBody CoapPacket.init sampleBody 0).All (Access.Inside 4) := by
  obtain ⟨haccept, -, hinside⟩ := checkedBody_grammar CoapPacket.init sampleBody 0 (by decide)
  refine ⟨haccept.mpr ⟨by decide, by decide, by decide, [], sampleBody.rest 0, rfl, rfl, ?_⟩, hinside⟩
  exact @OptionsTail.option 0 15 11 0xB1 [] [] [7] [0xFF, 8] (.zero (by decide)) (.zero (by decide)) (by decide)
    (.payload _ _ [8])

/-- An option with a value of 65804 bytes starts three bytes before the end of the message; the first byte of
the message is the marker. -/
def wrappedBody : CoapRaw := ⟨fun i => if i = 2 ^ 32 - 65807 then 0x0E else 0xFF, 2 ^ 32 - 65804⟩

/-- The empty message is refused, as is a token of nine bytes; and where the end of a value wraps, an option is
found outside the message. -/
theorem checkedBody_not_grammar :
    ((checkedBody CoapPacket.init ⟨fun _ => 0, 0⟩ 0).result.toOption.isNone ∧
      BodyGrammar 0 (CoapRaw.rest ⟨fun _ => 0, 0⟩ 0)) ∧
    ((checkedBody { CoapPacket.init with header := ⟨1, 0, 9, 1, 0⟩ } ⟨fun _ => 0, 9⟩ 0).result.toOption.isNone ∧
      BodyGrammar 9 (CoapRaw.rest ⟨fun _ => 0, 9⟩ 0)) ∧
    ((checkedBody CoapPacket.init wrappedBody (2 ^ 32 - 65807)).result.toOption.map fun pkt =>
      (pkt.opNum, (pkt.options 0).value)) = some (1, ⟨some wrappedBody.len, 65804⟩) := by
  refine ⟨⟨by decide, [], [], rfl, rfl, .finish _ _⟩, ⟨by decide, CoapRaw.rest ⟨fun _ => 0, 9⟩ 0, [], rfl, rfl, .finish _ _⟩, ?_⟩
  decide

end IotConnect.Coap
