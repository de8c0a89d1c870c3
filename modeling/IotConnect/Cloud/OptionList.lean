import IotConnect.Cloud.Control
import IotConnect.Cloud.Fsm

/-! # The options of a cloud request (`CloudOptionNumCalc`, `BuildCloudOption` of `m2m_cloud_send.c`)

One function counts the options of a request, and another writes them into an array of that many entries. The index of
the second one is a `uint32_t` that nothing compares with the number of entries, so the writes are kept with the index
they go to. -/
namespace IotConnect.Cloud.Link
open Bytes Coap Transport
set_option autoImplicit false

/-- `CloudOptionBitMap` -/
inductive CloudOptionBit
  | accessTokenId
  | reqId
  | devId
  | seqNumId
  deriving DecidableEq

def CloudOptionBit.pos : CloudOptionBit → ℕ
  | .accessTokenId => 0
  | .reqId => 1
  | .devId => 2
  | .seqNumId => 3

def CloudOptionBit.option : CloudOptionBit → UInt16
  | .accessTokenId => coapOptionTypeAccessTokenId
  | .reqId => coapOptionTypeReqId
  | .devId => coapOptionTypeDevId
  | .seqNumId => coapOptionTypeSeqNumId

/-- `uri` is an array of `num` pointers to strings. -/
structure CloudOption where
  uri : List (Option (List UInt8))
  num_lt : uri.length < 2 ^ 32
  opBitMap : UInt8

def CloudOption.isSet (o : CloudOption) (bit : CloudOptionBit) : Bool := o.opBitMap.toNat.testBit bit.pos

def cloudOptionNumCalc (o : CloudOption) : UInt32 :=
  let opNum := UInt32.ofNat o.uri.length
  let opNum := if o.isSet .accessTokenId then opNum + 1 else opNum
  let opNum := if o.isSet .seqNumId then opNum + 1 else opNum
  let opNum := if o.isSet .reqId then opNum + 1 else opNum
  if o.isSet .devId then opNum + 1 else opNum

/-- What `BuildCloudOption` reads of the cloud context and changes in it. -/
structure OptionContext where
  access : List UInt8
  reqId : List UInt8
  register : Bool
  regDevId : List UInt8
  loginDevId : List UInt8
  seq : UInt32

def reqIdLen : ℕ := 20

/-- The two allocations, and what `SecurityRandom` leaves in `Reqid`. -/
structure OptionEnv where
  calloc : Bool
  malloc : Bool
  random : Block reqIdLen

/-- The array with the index behind the last write. -/
structure OptionArray where
  index : UInt32
  writes : List (UInt32 × BuildOption)

def OptionArray.put (a : OptionArray) (entry : BuildOption) : OptionArray :=
  ⟨a.index + 1, a.writes ++ [(a.index, entry)]⟩

def uriEntry (segment : Option (List UInt8)) : BuildOption :=
  ⟨coapOptionTypeUriPath, match segment with | none => .null 0 | some text => .bytes text⟩

def buildCloudOption (env : OptionEnv) (ctx : OptionContext) (o : CloudOption) : Option (OptionArray × OptionContext) :=
  if env.calloc = false then none
  else
    let ops := (o.uri.map uriEntry).foldl OptionArray.put ⟨0, []⟩
    let ops := if o.isSet .accessTokenId then ops.put ⟨coapOptionTypeAccessTokenId, .bytes ctx.access⟩ else ops
    let ctx := if o.isSet .reqId then
        { ctx with reqId := (utilsHexify env.random.val (2 * reqIdLen + 1)).getD ctx.reqId } else ctx
    let ops := if o.isSet .reqId then ops.put ⟨coapOptionTypeReqId, .bytes ctx.reqId⟩ else ops
    let ops := if o.isSet .devId then
        ops.put ⟨coapOptionTypeDevId, .bytes (if ctx.register then ctx.regDevId else ctx.loginDevId)⟩ else ops
    -- the bit of the sequence number is not looked at
    let ops := ops.put ⟨coapOptionTypeSeqNumId, if env.malloc then .bytes (htonl ctx.seq) else .null 4⟩
    some (ops, { ctx with seq := ctx.seq + 1 })

def setBits (b : UInt8) : ℕ := (List.range 8).countP b.toNat.testBit

/-- The writes fill the array of the counted number of entries, each entry once, with one entry for each segment and
for each bit that is set and no others, in the order of the option numbers. -/
structure OptionsExact (o : CloudOption) (a : OptionArray) : Prop where
  reported : a.index = cloudOptionNumCalc o
  filled : a.writes.map Prod.fst = (List.range (cloudOptionNumCalc o).toNat).map UInt32.ofNat
  segments : (a.writes.map fun w => w.2.option).count coapOptionTypeUriPath = o.uri.length
  bits : ∀ bit, (a.writes.map fun w => w.2.option).count bit.option = (o.isSet bit).toNat
  others : a.writes.length = o.uri.length + setBits o.opBitMap
  ordered : (a.writes.map fun w => w.2.option).Pairwise (· ≤ ·)

/-! ## The send path -/

/-- The option that a request hands to the endpoint is the last one that is written. -/
theorem m2mCloudSendRequest_option (env : RequestEnv) (random : Block reqIdLen) (ctx : OptionContext)
    (o : CloudOption) : m2mCloudSendRequest env ctx.seq =
      match buildCloudOption ⟨env.callocOps, env.mallocSeq, random⟩ ctx o with
      | none => (ctx.seq, none)
      | some (ops, built) =>
        if env.reqJson = false then (built.seq, none)
        else coapEndpointSendPacket env.send false
          ⟨built.seq, ((ops.writes.map fun w => w.2.value).getLast?).getD (.null 0)⟩ := by
  have hseq : ∀ reqId, (if o.isSet .reqId then { ctx with reqId := reqId } else ctx).seq = ctx.seq := by
    intro reqId
    split_ifs <;> rfl
  unfold m2mCloudSendRequest buildCloudOption
  by_cases hcalloc : env.callocOps = false
  · rw [if_pos hcalloc, if_pos hcalloc]
  · rw [if_neg hcalloc, if_neg hcalloc]
    simp only [OptionArray.put, List.map_append, List.map_singleton, List.getLast?_concat, hseq, Option.getD_some]

/-- A request of the state machine succeeds exactly if the endpoint is there and the link takes the message. -/
theorem sendRequest_ok_iff (J : JsonAdapter) (K : List UInt8 → List UInt8 → List UInt8) {env : Cloud.RequestEnv}
    {link : RequestEnv} {h : CloudHandler} {c : CloudContext} (hoptions : env.options = link.callocOps)
    (hbuilt : (m2mBuildRequest env h c).1 = link.reqJson)
    (hsent : (∃ pkt, env.outcome = .sent pkt) ↔ link.send.encodes = true ∧ link.send.links = true) (seq : UInt32) :
    (Cloud.m2mCloudSendRequest J K env h c).1 = .ok ↔
      c.created = true ∧ (m2mCloudSendRequest link seq).2.isSome = true := by
  have hlink (m : SeqMsg) : (coapEndpointSendPacket link.send false m).2.isSome = true ↔
      link.send.encodes = true ∧ link.send.links = true := by
    unfold coapEndpointSendPacket cloudSessSendUpdateSeqProcess
    rw [transSessMsgCorNodeProcess]
    cases link.send.encodes <;> cases link.send.links <;> simp
  unfold Cloud.m2mCloudSendRequest m2mCloudSendRequest
  rw [hoptions]
  cases c.created with
  | false => simp
  | true =>
    cases link.callocOps with
    | false => simp
    | true =>
      dsimp only
      rw [hbuilt]
      cases link.reqJson with
      | false => simp
      | true =>
        rw [if_neg (by decide), if_neg (by decide), if_neg (by decide), if_neg (by decide), if_neg (by decide), hlink,
          ← hsent]
        cases env.outcome with
        | failed ret => simp [ret.property]
        | linkError ret => simp [ret.property]
        | sent pkt => simp

/-! ## What is written -/

/-- The array when the entries of `l` have been put into it. -/
structure OptionArray.Filled (a : OptionArray) (l : List UInt16) : Prop where
  index : a.index = UInt32.ofNat l.length
  places : a.writes.map Prod.fst = (List.range l.length).map UInt32.ofNat
  options : a.writes.map (fun w => w.2.option) = l

namespace OptionArray.Filled
variable {a : OptionArray} {l : List UInt16}

theorem put (h : a.Filled l) (entry : BuildOption) : (a.put entry).Filled (l ++ [entry.option]) where
  index := by
    rw [OptionArray.put, h.index, List.length_append, UInt32.ofNat_add]
    rfl
  places := by
    rw [OptionArray.put, List.map_append, h.places, List.length_append, List.length_singleton, List.range_succ,
      List.map_append, h.index]
    rfl
  options := by
    rw [OptionArray.put, List.map_append, h.options]
    rfl

theorem putIf (h : a.Filled l) (b : Bool) (entry : BuildOption) :
    (if b then a.put entry else a).Filled (l ++ List.replicate b.toNat entry.option) := by
  cases b with
  | false => simpa using h
  | true => exact h.put entry

theorem putAll (h : a.Filled l) (entries : List BuildOption) :
    (entries.foldl OptionArray.put a).Filled (l ++ entries.map BuildOption.option) := by
  induction entries generalizing a l with
  | nil => simpa using h
  | cons entry entries ih => simpa using ih (h.put entry)

theorem length (h : a.Filled l) : a.writes.length = l.length := by rw [← h.options, List.length_map]

end OptionArray.Filled

/-- The option numbers that are written. -/
def writtenOptions (o : CloudOption) : List UInt16 :=
  List.replicate o.uri.length coapOptionTypeUriPath ++
    List.replicate (o.isSet .accessTokenId).toNat coapOptionTypeAccessTokenId ++
    List.replicate (o.isSet .reqId).toNat coapOptionTypeReqId ++
    List.replicate (o.isSet .devId).toNat coapOptionTypeDevId ++ [coapOptionTypeSeqNumId]

theorem buildCloudOption_filled {env : OptionEnv} {ctx : OptionContext} {o : CloudOption}
    {r : OptionArray × OptionContext} (h : buildCloudOption env ctx o = some r) : r.1.Filled (writtenOptions o) := by
  have hempty : (⟨0, []⟩ : OptionArray).Filled [] := ⟨rfl, rfl, rfl⟩
  have huri : (o.uri.map uriEntry).map BuildOption.option = List.replicate o.uri.length coapOptionTypeUriPath := by
    rw [List.map_map]
    exact List.map_const' ..
  have hsegments := hempty.putAll (o.uri.map uriEntry)
  rw [huri, List.nil_append] at hsegments
  unfold buildCloudOption at h
  by_cases hcalloc : env.calloc = false
  · rw [if_pos hcalloc] at h
    cases h
  · rw [if_neg hcalloc] at h
    rw [← Option.some.inj h]
    exact (((hsegments.putIf _ _).putIf _ _).putIf _ _).put _

theorem writtenOptions_length (o : CloudOption) : (writtenOptions o).length =
    o.uri.length + (o.isSet .accessTokenId).toNat + (o.isSet .reqId).toNat + (o.isSet .devId).toNat + 1 := by
  simp only [writtenOptions, List.length_append, List.length_replicate, List.length_singleton]

/-- An ordered list with no number above `x`. -/
structure OrderedBelow (l : List UInt16) (x : UInt16) : Prop where
  ordered : l.Pairwise (· ≤ ·)
  below : ∀ y ∈ l, y ≤ x

theorem OrderedBelow.append {l : List UInt16} {x x' : UInt16} (h : OrderedBelow l x) (hx : x ≤ x') (n : ℕ) :
    OrderedBelow (l ++ List.replicate n x) x' where
  ordered := by
    refine List.pairwise_append.mpr ⟨h.ordered, List.pairwise_replicate.mpr (.inr (UInt16.le_refl x)), ?_⟩
    intro y hy z hz
    rw [List.eq_of_mem_replicate hz]
    exact h.below y hy
  below := by
    intro y hy
    rcases List.mem_append.mp hy with hy | hy
    · exact UInt16.le_trans (h.below y hy) hx
    · rw [List.eq_of_mem_replicate hy]
      exact hx

theorem writtenOptions_ordered (o : CloudOption) : (writtenOptions o).Pairwise (· ≤ ·) := by
  have hempty : OrderedBelow [] coapOptionTypeUriPath := ⟨.nil, List.forall_mem_nil _⟩
  have huri : OrderedBelow _ coapOptionTypeAccessTokenId := hempty.append (by decide) o.uri.length
  have htoken : OrderedBelow _ coapOptionTypeReqId := huri.append (by decide) (o.isSet .accessTokenId).toNat
  have hreqId : OrderedBelow _ coapOptionTypeDevId := htoken.append (by decide) (o.isSet .reqId).toNat
  have hdevId : OrderedBelow _ coapOptionTypeSeqNumId := hreqId.append (by decide) (o.isSet .devId).toNat
  exact (hdevId.append (UInt16.le_refl _) 1).ordered

theorem writtenOptions_uri (o : CloudOption) : (writtenOptions o).count coapOptionTypeUriPath = o.uri.length := by
  simp [writtenOptions, List.count_replicate, coapOptionTypeUriPath, coapOptionTypeAccessTokenId, coapOptionTypeReqId,
    coapOptionTypeDevId, coapOptionTypeSeqNumId]

theorem writtenOptions_bit (o : CloudOption) (bit : CloudOptionBit) :
    (writtenOptions o).count bit.option = if bit = .seqNumId then 1 else (o.isSet bit).toNat := by
  cases bit <;> simp [writtenOptions, List.count_replicate, CloudOptionBit.option, coapOptionTypeUriPath,
    coapOptionTypeAccessTokenId, coapOptionTypeReqId, coapOptionTypeDevId, coapOptionTypeSeqNumId]

/-! ## What is counted -/

theorem cloudOptionNumCalc_eq (o : CloudOption) : cloudOptionNumCalc o = UInt32.ofNat (o.uri.length +
    (o.isSet .accessTokenId).toNat + (o.isSet .reqId).toNat + (o.isSet .devId).toNat + (o.isSet .seqNumId).toNat) := by
  unfold cloudOptionNumCalc
  cases o.isSet .accessTokenId <;> cases o.isSet .reqId <;> cases o.isSet .devId <;> cases o.isSet .seqNumId <;>
    simp [UInt32.ofNat_add, UInt32.add_assoc]

/-- The bits that are counted are all that are set exactly when none is set that is not an option. -/
theorem setBits_eq_iff (o : CloudOption) : (o.isSet .accessTokenId).toNat + (o.isSet .reqId).toNat +
    (o.isSet .devId).toNat + (o.isSet .seqNumId).toNat = setBits o.opBitMap ↔ o.opBitMap < 16 := by
  unfold CloudOption.isSet
  generalize o.opBitMap = b
  revert b
  exact forall_byte (by decide +kernel)

/-! ## Agreement -/

theorem optionsExact_iff {o : CloudOption} {a : OptionArray} (h : a.Filled (writtenOptions o)) :
    OptionsExact o a ↔
      o.isSet .seqNumId = true ∧ o.opBitMap < 16 ∧ o.uri.length + setBits o.opBitMap < 2 ^ 32 := by
  have hlength := h.length.trans (writtenOptions_length o)
  have hbits := setBits_eq_iff o
  constructor
  · intro he
    have hseq : o.isSet .seqNumId = true := by
      have hone := he.bits .seqNumId
      rw [h.options, writtenOptions_bit, if_pos rfl] at hone
      cases hset : o.isSet .seqNumId with
      | true => rfl
      | false => rw [hset] at hone; cases hone
    have hknown : o.opBitMap < 16 := by
      have hothers := he.others
      rw [hseq] at hbits
      rw [← hbits, Bool.toNat_true]
      omega
    refine ⟨hseq, hknown, ?_⟩
    have hplaces := congrArg List.length he.filled
    rw [List.length_map, List.length_map, List.length_range] at hplaces
    rw [← he.others, hplaces]
    exact (cloudOptionNumCalc o).toNat_lt
  · rintro ⟨hseq, hknown, hlt⟩
    have hset := hbits.mpr hknown
    rw [hseq, Bool.toNat_true] at hset
    have hwritten : (writtenOptions o).length = o.uri.length + setBits o.opBitMap := by
      rw [writtenOptions_length]
      omega
    have hcalc : cloudOptionNumCalc o = UInt32.ofNat (writtenOptions o).length := by
      rw [cloudOptionNumCalc_eq, hseq, writtenOptions_length, Bool.toNat_true]
    have hnat : (cloudOptionNumCalc o).toNat = (writtenOptions o).length := by
      rw [hcalc, UInt32.toNat_ofNat', Nat.mod_eq_of_lt (hwritten ▸ hlt)]
    refine ⟨h.index.trans hcalc.symm, by rw [hnat, h.places], ?_, fun bit => ?_, by rw [h.length, hwritten], ?_⟩
    · rw [h.options, writtenOptions_uri]
    · rw [h.options, writtenOptions_bit]
      split_ifs with hbit
      · rw [hbit, hseq, Bool.toNat_true]
      · rfl
    · rw [h.options]
      exact writtenOptions_ordered o

/-- The array of the options is filled exactly, and in order, just when the bit of the sequence number is set, no bit is
set that stands for no option, and the number of options is a `uint32_t`. -/
theorem buildCloudOption_exact_iff (env : OptionEnv) (ctx : OptionContext) (o : CloudOption) :
    (∀ r, buildCloudOption env ctx o = some r → OptionsExact o r.1) ↔
      (env.calloc = true →
        o.isSet .seqNumId = true ∧ o.opBitMap < 16 ∧ o.uri.length + setBits o.opBitMap < 2 ^ 32) := by
  constructor
  · intro h hcalloc
    obtain ⟨r, hr⟩ : ∃ r, buildCloudOption env ctx o = some r := by
      unfold buildCloudOption
      rw [if_neg (by rw [hcalloc]; exact Bool.noConfusion)]
      exact ⟨_, rfl⟩
    exact (optionsExact_iff (buildCloudOption_filled hr)).mp (h r hr)
  · intro h r hr
    have hcalloc : env.calloc = true := by
      by_contra hno
      rw [buildCloudOption, if_pos (Bool.eq_false_iff.mpr hno)] at hr
      cases hr
    exact (optionsExact_iff (buildCloudOption_filled hr)).mpr (h hcalloc)

def sampleOptionEnv : OptionEnv := ⟨true, true, .zero reqIdLen⟩

def sampleOptionContext : OptionContext := ⟨ascii "token", [], false, [], ascii "dev", 7⟩

/-- One segment and no bit, as for a message that carries no sequence number. -/
def sampleBareOption : CloudOption := ⟨[some (ascii "csm")], by decide, 0⟩

theorem bare_option_overruns : ¬ ∀ r, buildCloudOption sampleOptionEnv sampleOptionContext sampleBareOption = some r →
    OptionsExact sampleBareOption r.1 := by
  intro h
  have hfilled := congrArg List.length (h _ rfl).filled
  exact absurd hfilled (by decide)

end IotConnect.Cloud.Link
