import OsmoSgsn.Sndcp.Tags
import OsmoSgsn.V42bis.RoundTrip
import OsmoSgsn.V42bis.Settings

/-!
# Data compression of packets

SNDCP compresses each packet on its own: the state of the codec is initialised again before every
packet, so that none depends on one that came before it or was lost. A packet goes as it is if it is
short, if its direction does not compress, or if it would not get shorter.

Both functions have a buffer for what they put out. The one for compressing is large enough for
whatever comes. The one for expanding is not: it has room for ten times what was received, and a
packet of few different octets gets shorter than that.
-/

namespace OsmoSgsn.Sndcp

open V42bis (CompState maxOutputLength v42bisInit v42bisCompInit v42bisCompress v42bisCompressFlush
  v42bisDecompress v42bisDecompressFlush)

/-! ## The code -/

/-- Shorter packets are not compressed. -/
def minComprPayload : ℕ := 100

/-- The buffers: times as long as their input, and longer by so much for header compression. -/
def maxDatadecomprFac : ℕ := 10
def maxHdrdecomprIncr : ℕ := 64

/-- A compression entity with the state of its algorithm. -/
structure DcompEntity extends CompEntity where
  state : V42bis.State

/-- How data compression does not return. -/
inductive DcompFailure
  | assertFailed
  | hangs
  /-- Octets are written past the end of a buffer. -/
  | overrun
  deriving DecidableEq, Repr

/-- Reinitialise the state with the previously negotiated parameters. -/
def v42bisReset (comp : V42bis.State) : V42bis.State :=
  (v42bisInit (comp.decompress.p0 ||| comp.compress.p0) comp.decompress.n2 comp.decompress.n7
    maxOutputLength maxOutputLength).getD comp

/-- What `v42bis_compress_unitdata` leaves: the index of the way, the packet and the state. -/
structure UnitdataSent where
  pcompIndex : ℕ
  data : Bytes
  comp : V42bis.State

/-- `v42bis_compress_unitdata`. Neither of the two functions of the codec returns an error. -/
def v42bisCompressUnitdata (data : Bytes) (comp : V42bis.State) :
    Except DcompFailure UnitdataSent :=
  if data.length < minComprPayload ∨ comp.compress.p0 = 0 then .ok ⟨0, data, comp⟩
  else
    let comp := v42bisReset comp
    match v42bisCompress { comp.compress with handled := [] } data >>= v42bisCompressFlush with
    | .error _ => .error .hangs
    | .ok e =>
      let comp := { comp with compress := e }
      if data.length * maxDatadecomprFac < e.handled.length then .error .overrun
      else if data.length ≤ e.handled.length then .ok ⟨0, data, comp⟩
      else .ok ⟨1, e.handled, comp⟩

/-- `v42bis_expand_unitdata`, into a buffer with room for so many octets. A packet with an error
leaves a state that nobody looks at before it is reset. -/
def v42bisExpandUnitdata (data : Bytes) (pcompIndex room : ℕ) (comp : V42bis.State) :
    Except DcompFailure (Option Bytes × V42bis.State) :=
  if pcompIndex = 0 then .ok (some data, comp)
  else
    let comp := v42bisReset comp
    match v42bisDecompress { comp.decompress with handled := [] } data with
    | .error .hangs => .error .hangs
    | .error (.badCode handled) => if room < handled then .error .overrun else .ok (none, comp)
    | .ok d =>
      let d := v42bisDecompressFlush d
      if room < d.handled.length then .error .overrun
      else .ok (some d.handled, { comp with decompress := d })

/-- The state of an entity changes. -/
def setDcompState (entities : List DcompEntity) (i : ℕ) (comp : V42bis.State) : List DcompEntity :=
  entities.modify i fun e ↦ { e with state := comp }

/-- Only V.42bis is supported. -/
def DcompEntity.supported (e : DcompEntity) : Bool :=
  e.compclass = .dataCompression ∧ e.algo = 0

/-- A packet with its tag, and the entities afterwards. -/
structure DcompSent where
  dcomp : ℕ
  data : Bytes
  entities : List DcompEntity

/-- `gprs_sndcp_dcomp_compress`. -/
def gprsSndcpDcompCompress (entities : List DcompEntity) (data : Bytes) (nsapi : ℕ) :
    Except DcompFailure DcompSent :=
  let i := entities.findIdx fun e ↦ nsapi ∈ e.nsapi
  match entities[i]? with
  | none => .ok ⟨0, data, entities⟩
  | some e =>
    if e.supported then do
      let r ← v42bisCompressUnitdata data e.state
      pure ⟨gprsSndcpCompGetComp e.toCompEntity r.pcompIndex, r.data,
        setDcompState entities i r.comp⟩
    else .error .assertFailed

/-- A packet that was received, if it was expanded, and the entities afterwards. -/
structure DcompReceived where
  data : Option Bytes
  entities : List DcompEntity

/-- `gprs_sndcp_dcomp_expand`. -/
def gprsSndcpDcompExpand (entities : List DcompEntity) (data : Bytes) (room pcomp : ℕ) :
    Except DcompFailure DcompReceived :=
  if pcomp = 0 then .ok ⟨some data, entities⟩
  else
    let i := entities.findIdx fun e ↦ pcomp ∈ e.comp
    match entities[i]? with
    | none => .ok ⟨some data, entities⟩
    | some e =>
      if e.supported then do
        let (data, comp) ←
          v42bisExpandUnitdata data (gprsSndcpCompGetIdx e.toCompEntity pcomp) room e.state
        pure ⟨data, setDcompState entities i comp⟩
      else .error .assertFailed

/-- The room that `decompress_segment` has for a packet. -/
def segmentRoom (data : Bytes) : ℕ := data.length * maxDatadecomprFac + maxHdrdecomprIncr

/-! ## What was negotiated -/

/-- Parameters that the codec works with. -/
structure DcompParams where
  p0 : ℕ
  p1 : ℕ
  p2 : ℕ
  dictionary : V42bis.minDictionarySize ≤ p1 ∧ p1 ≤ V42bis.maxCodewords
  string : V42bis.minStringSize ≤ p2 ∧ p2 ≤ V42bis.maxStringSize

/-- The state with which everything begins. -/
def DcompParams.fresh (p : DcompParams) : V42bis.State where
  compress := v42bisCompInit (p.p0 &&& 2) p.p1 p.p2 maxOutputLength
  decompress := v42bisCompInit (p.p0 &&& 1) p.p1 p.p2 maxOutputLength

/-- What a state still knows of the parameters, whatever came through it. -/
structure Settled (p : DcompParams) (comp : V42bis.State) : Prop where
  compress : comp.compress.p0 = p.p0 &&& 2
  decompress : comp.decompress.settings = (p.p0 &&& 1, p.p1, p.p2)

section Settled

variable {p : DcompParams} {comp : V42bis.State} {data : Bytes}

theorem DcompParams.v42bisInit_eq (p : DcompParams) :
    v42bisInit p.p0 p.p1 p.p2 maxOutputLength maxOutputLength = some p.fresh := by
  have hlarge : V42bis.maxCodewords ≤ 65535 := by decide
  have hp1 : ¬(p.p1 < V42bis.minDictionarySize ∨ 65535 < p.p1) :=
    not_or.mpr ⟨not_lt.mpr p.dictionary.1, not_lt.mpr (p.dictionary.2.trans hlarge)⟩
  have hp2 : ¬(p.p2 < V42bis.minStringSize ∨ V42bis.maxStringSize < p.p2) :=
    not_or.mpr ⟨not_lt.mpr p.string.1, not_lt.mpr p.string.2⟩
  unfold v42bisInit
  rw [if_neg hp1, if_neg hp2]
  rfl

theorem settled_fresh (p : DcompParams) : Settled p p.fresh := ⟨rfl, rfl⟩

/-- **A reset state is a fresh one.** -/
theorem v42bisReset_eq (h : Settled p comp) : v42bisReset comp = p.fresh := by
  obtain ⟨hcompress, hdecompress⟩ := h
  obtain ⟨hp0, hn2, hn7⟩ : comp.decompress.p0 = p.p0 &&& 1 ∧ comp.decompress.n2 = p.p1 ∧
      comp.decompress.n7 = p.p2 := by
    simpa [CompState.settings] using hdecompress
  have htwo : (p.p0 &&& 1 ||| p.p0 &&& 2) &&& 2 = p.p0 &&& 2 := by
    rw [Nat.and_or_distrib_right, Nat.and_assoc, Nat.and_assoc]
    simp
  have hone : (p.p0 &&& 1 ||| p.p0 &&& 2) &&& 1 = p.p0 &&& 1 := by
    rw [Nat.and_or_distrib_right, Nat.and_assoc, Nat.and_assoc]
    simp
  have hinit := DcompParams.v42bisInit_eq { p with p0 := p.p0 &&& 1 ||| p.p0 &&& 2 }
  unfold v42bisReset
  rw [hp0, hcompress, hn2, hn7]
  refine (congrArg (Option.getD · comp) hinit).trans ?_
  unfold DcompParams.fresh
  dsimp only
  rw [Option.getD_some, htwo, hone]

/-- A packet that comes out of a decompressor with these parameters, whatever else it is told. -/
def Expands (p : DcompParams) (payload data : Bytes) : Prop :=
  ∀ p0, p0 ≠ 0 → ∃ d, v42bisDecompress (v42bisCompInit p0 p.p1 p.p2 maxOutputLength) payload =
    .ok d ∧ (v42bisDecompressFlush d).handled = data

/-- How a packet is sent: as it is, or shorter and such that it can be expanded. -/
inductive Sent (p : DcompParams) (data : Bytes) : ℕ → Bytes → Prop
  | asIs : Sent p data 0 data
  | compressed {payload : Bytes} (hp0 : p.p0 &&& 2 ≠ 0) (hlen : payload.length < data.length)
    (h : Expands p payload data) : Sent p data 1 payload

theorem expands_of_compressed (hp0 : p.p0 &&& 2 ≠ 0) {e : CompState}
    (h : (v42bisCompress p.fresh.compress data >>= v42bisCompressFlush) = .ok e) :
    Expands p e.handled data := by
  intro p0 hne
  obtain ⟨e', d, he', -, hd⟩ := V42bis.v42bisDecompress_v42bisCompInit hp0 hne p.dictionary
    p.string (by decide : 0 < maxOutputLength) maxOutputLength data
  obtain rfl : e' = e := Except.ok.inj (he'.symm.trans h)
  exact ⟨d, hd⟩

theorem kept_of_compressed {s e : CompState}
    (h : (v42bisCompress s data >>= v42bisCompressFlush) = .ok e) : V42bis.Kept s e :=
  (V42bis.ensures_v42bisCompress s data).bind
    (fun s' hs' ↦ (V42bis.ensures_v42bisCompressFlush s').mono fun _ h ↦ hs'.trans h) e h

/-- **A packet is compressed well, or sent as it is.** The function always returns. -/
theorem v42bisCompressUnitdata_sent (h : Settled p comp) (data : Bytes) :
    ∃ r, v42bisCompressUnitdata data comp = .ok r ∧ Settled p r.comp ∧
      Sent p data r.pcompIndex r.data := by
  unfold v42bisCompressUnitdata
  by_cases hskip : data.length < minComprPayload ∨ comp.compress.p0 = 0
  · rw [if_pos hskip]
    exact ⟨_, rfl, h, .asIs⟩
  · rw [if_neg hskip, v42bisReset_eq h]
    obtain ⟨hlong, hp0⟩ := not_or.mp hskip
    rw [h.compress] at hp0
    obtain ⟨e, -, hcompress, hlen, -⟩ := V42bis.v42bisDecompress_v42bisCompInit hp0 one_ne_zero
      p.dictionary p.string (by decide : 0 < maxOutputLength) maxOutputLength data
    have hcompress' : (v42bisCompress { p.fresh.compress with handled := [] } data >>=
        v42bisCompressFlush) = .ok e := hcompress
    have hsettled : Settled p { p.fresh with compress := e } :=
      ⟨congrArg Prod.fst (kept_of_compressed hcompress), rfl⟩
    -- the longest output is not much longer than eight times the packet
    have hroom : ¬data.length * maxDatadecomprFac < e.handled.length := by
      unfold minComprPayload at hlong
      unfold maxDatadecomprFac
      omega
    dsimp only
    rw [hcompress']
    dsimp only
    rw [if_neg hroom]
    split
    · exact ⟨_, rfl, hsettled, .asIs⟩
    · rename_i hgain
      exact ⟨_, rfl, hsettled, .compressed hp0 (not_le.mp hgain)
        (expands_of_compressed hp0 hcompress)⟩

/-- Whatever comes in, a state that was settled is so again if the function returns. -/
theorem v42bisExpandUnitdata_settled {pcompIndex room : ℕ} (h : Settled p comp) :
    Except.Ensures (fun r ↦ Settled p r.2) (v42bisExpandUnitdata data pcompIndex room comp) := by
  unfold v42bisExpandUnitdata
  by_cases hindex : pcompIndex = 0
  · rw [if_pos hindex]
    exact Except.ensures_ok.mpr h
  · rw [if_neg hindex, v42bisReset_eq h]
    dsimp only
    have hkept := V42bis.ensures_v42bisDecompress { p.fresh.decompress with handled := [] } data
    split
    · exact Except.ensures_error _
    · split_ifs
      · exact Except.ensures_error _
      · exact Except.ensures_ok.mpr (settled_fresh p)
    · rename_i d hd
      split_ifs
      · exact Except.ensures_error _
      · exact Except.ensures_ok.mpr
          ⟨rfl, (hkept d hd).trans (V42bis.kept_v42bisDecompressFlush d)⟩

/-- **A packet that was compressed is restored if there is room for it.** If there is none, the
function writes past the end of the buffer. -/
theorem v42bisExpandUnitdata_expands {payload : Bytes} (h : Settled p comp)
    (hp0 : p.p0 &&& 1 ≠ 0) (hexpands : Expands p payload data) (room : ℕ) :
    ∃ comp', v42bisExpandUnitdata payload 1 room comp =
      if room < data.length then .error .overrun else .ok (some data, comp') := by
  obtain ⟨d, hd, hhandled⟩ := hexpands (p.p0 &&& 1) hp0
  refine ⟨{ p.fresh with decompress := v42bisDecompressFlush d }, ?_⟩
  have hd' : v42bisDecompress { p.fresh.decompress with handled := [] } payload = .ok d := hd
  unfold v42bisExpandUnitdata
  rw [if_neg one_ne_zero, v42bisReset_eq h]
  dsimp only
  rw [hd']
  dsimp only
  rw [hhandled]

end Settled

/-! ## Entities -/

/-- A list of entities as it was negotiated, with states that are settled. -/
structure Follows (entities : List CompEntity) (params : CompEntity → DcompParams)
    (es : List DcompEntity) : Prop where
  entities : es.map (·.toCompEntity) = entities
  settled : ∀ e ∈ es, Settled (params e.toCompEntity) e.state

section Follows

variable {entities : List CompEntity} {params : CompEntity → DcompParams} {es : List DcompEntity}

theorem map_setDcompState (es : List DcompEntity) (i : ℕ) (comp : V42bis.State) :
    (setDcompState es i comp).map (·.toCompEntity) = es.map (·.toCompEntity) := by
  unfold setDcompState
  induction es generalizing i with
  | nil => simp
  | cons e es ih =>
    cases i with
    | zero => rfl
    | succ i => exact congrArg (e.toCompEntity :: ·) (ih i)

theorem mem_setDcompState {i : ℕ} {comp : V42bis.State} {e : DcompEntity}
    (h : e ∈ setDcompState es i comp) :
    e ∈ es ∨ ∃ e', es[i]? = some e' ∧ e = { e' with state := comp } := by
  unfold setDcompState at h
  induction es generalizing i with
  | nil => simp at h
  | cons e' es ih =>
    cases i with
    | zero =>
      rcases List.mem_cons.mp h with rfl | h
      · exact .inr ⟨e', rfl, rfl⟩
      · exact .inl (List.mem_cons_of_mem e' h)
    | succ i =>
      rcases List.mem_cons.mp h with rfl | h
      · exact .inl List.mem_cons_self
      · exact (ih h).imp_left (List.mem_cons_of_mem e')

theorem Follows.setDcompState (h : Follows entities params es) {i : ℕ} {e : DcompEntity}
    (he : es[i]? = some e) {comp : V42bis.State} (hcomp : Settled (params e.toCompEntity) comp) :
    Follows entities params (setDcompState es i comp) := by
  refine ⟨(map_setDcompState es i comp).trans h.entities, fun x hx ↦ ?_⟩
  rcases mem_setDcompState hx with hx | ⟨e', he', rfl⟩
  · exact h.settled x hx
  · obtain rfl := Option.some.inj (he.symm.trans he')
    exact hcomp

/-- What is looked up in a list is the entity that was negotiated, or there is none. -/
theorem Follows.lookup (h : Follows entities params es) (q : CompEntity → Bool) :
    entities.find? q = none ∧ es[es.findIdx fun e ↦ q e.toCompEntity]? = none ∨
      ∃ e, entities.find? q = some e.toCompEntity ∧
        es[es.findIdx fun e ↦ q e.toCompEntity]? = some e ∧
        Settled (params e.toCompEntity) e.state := by
  rw [← List.find?_eq_getElem?_findIdx, ← h.entities, List.find?_map]
  change Option.map _ (es.find? fun e ↦ q e.toCompEntity) = none ∧ _ ∨ _
  cases hfind : es.find? fun e ↦ q e.toCompEntity with
  | none => exact .inl ⟨rfl, rfl⟩
  | some e => exact .inr ⟨e, by simp [hfind], rfl,
      h.settled e (List.mem_of_find?_eq_some hfind)⟩

/-- A packet is sent as it is where nothing handles its NSAPI, and else with a tag that tells how it
goes. -/
inductive SentFor (entities : List CompEntity) (params : CompEntity → DcompParams) (nsapi : ℕ)
    (data : Bytes) : ℕ → Bytes → Prop
  | asIs (h : gprsSndcpCompByNsapi entities nsapi = none) :
    SentFor entities params nsapi data 0 data
  | tagged {e : CompEntity} {i : ℕ} {payload : Bytes}
    (h : gprsSndcpCompByNsapi entities nsapi = some e) (hsent : Sent (params e) data i payload) :
    SentFor entities params nsapi data (gprsSndcpCompGetComp e i) payload

/-- **Compressing** always returns, and keeps the states settled. -/
theorem Follows.gprsSndcpDcompCompress (h : Follows entities params es)
    (honly : OnlyClass .dataCompression entities) (data : Bytes) (nsapi : ℕ) :
    ∃ r, gprsSndcpDcompCompress es data nsapi = .ok r ∧ Follows entities params r.entities ∧
      SentFor entities params nsapi data r.dcomp r.data := by
  unfold OsmoSgsn.Sndcp.gprsSndcpDcompCompress
  dsimp only
  rcases h.lookup fun e ↦ nsapi ∈ e.nsapi with ⟨hnone, hfound⟩ | ⟨e, hsome, hfound, hsettled⟩
  · rw [hfound]
    exact ⟨_, rfl, h, .asIs hnone⟩
  · obtain ⟨hclass, halgo⟩ := honly _ (List.mem_of_find?_eq_some hsome)
    have hsupported : e.supported = true := decide_eq_true ⟨hclass, halgo⟩
    obtain ⟨r, hr, hsettled', hsent⟩ := v42bisCompressUnitdata_sent hsettled data
    rw [hfound]
    dsimp only
    rw [if_pos hsupported, hr]
    exact ⟨_, rfl, h.setDcompState hfound hsettled', .tagged hsome hsent⟩

/-- **Expanding** keeps the states settled, whatever comes in. -/
theorem Follows.gprsSndcpDcompExpand (h : Follows entities params es) (data : Bytes)
    (room pcomp : ℕ) :
    Except.Ensures (fun r ↦ Follows entities params r.entities)
      (gprsSndcpDcompExpand es data room pcomp) := by
  unfold OsmoSgsn.Sndcp.gprsSndcpDcompExpand
  split
  · exact Except.ensures_ok.mpr h
  · dsimp only
    rcases h.lookup fun e ↦ pcomp ∈ e.comp with ⟨-, hfound⟩ | ⟨e, -, hfound, hsettled⟩
    · rw [hfound]
      exact Except.ensures_ok.mpr h
    · rw [hfound]
      dsimp only
      split
      · refine (v42bisExpandUnitdata_settled hsettled).bind fun r hr ↦ ?_
        exact Except.ensures_pure.mpr (h.setDcompState hfound hr)
      · exact Except.ensures_error _

end Follows

/-! ## Both ends -/

/-- `gprs_sndcp_dcomp_init`: the state of a new entity. -/
def gprsSndcpDcompState (p0 p1 p2 : ℕ) : Option V42bis.State :=
  v42bisInit p0 p1 p2 maxOutputLength maxOutputLength

/-- New entities. -/
structure Created (entities : List CompEntity) (params : CompEntity → DcompParams)
    (es : List DcompEntity) : Prop where
  entities : es.map (·.toCompEntity) = entities
  state : ∀ e ∈ es, gprsSndcpDcompState (params e.toCompEntity).p0 (params e.toCompEntity).p1
    (params e.toCompEntity).p2 = some e.state

/-- A packet is sent, or one comes in, whatever its octets and its tag are. -/
inductive DcompStep (es : List DcompEntity) : List DcompEntity → Prop
  | sent {data : Bytes} {nsapi : ℕ} {r : DcompSent}
    (h : gprsSndcpDcompCompress es data nsapi = .ok r) : DcompStep es r.entities
  | received {data : Bytes} {room pcomp : ℕ} {r : DcompReceived}
    (h : gprsSndcpDcompExpand es data room pcomp = .ok r) : DcompStep es r.entities

section BothEnds

variable {entities : List CompEntity} {params params' : CompEntity → DcompParams}
  {es₀ es rs₀ rs : List DcompEntity} {data payload : Bytes} {nsapi dcomp : ℕ}

theorem Created.follows (h : Created entities params es) : Follows entities params es := by
  refine ⟨h.entities, fun e he ↦ ?_⟩
  obtain heq := Option.some.inj ((DcompParams.v42bisInit_eq _).symm.trans (h.state e he))
  exact heq ▸ settled_fresh _

/-- **Nothing that is sent or comes in loses what was negotiated.** -/
theorem Created.follows_of_steps (h : Created entities params es₀)
    (honly : OnlyClass .dataCompression entities)
    (hsteps : Relation.ReflTransGen DcompStep es₀ es) : Follows entities params es := by
  induction hsteps with
  | refl => exact h.follows
  | tail _ hstep ih =>
    cases hstep with
    | @sent data nsapi r hr =>
      obtain ⟨r', hr', hfollows, -⟩ := ih.gprsSndcpDcompCompress honly data nsapi
      obtain rfl := Except.ok.inj (hr.symm.trans hr')
      exact hfollows
    | received hr => exact ih.gprsSndcpDcompExpand _ _ _ _ hr

/-- The parameters of two ends fit: strings and codewords are the same, and what one end compresses
the other one expands. -/
def Peers (entities : List CompEntity) (params params' : CompEntity → DcompParams) : Prop :=
  ∀ e ∈ entities, (params e).p1 = (params' e).p1 ∧ (params e).p2 = (params' e).p2 ∧
    ((params e).p0 &&& 2 ≠ 0 → (params' e).p0 &&& 1 ≠ 0)

/-- What was sent is expanded if there is room. -/
theorem SentFor.expand (h : SentFor entities params nsapi data dcomp payload)
    (honly : OnlyClass .dataCompression entities) (htags : TagsWork entities)
    (hcomp : ∀ e ∈ entities, e.comp ≠ []) (hpeers : Peers entities params params')
    (hrs : Follows entities params' rs) :
    ∃ rs', gprsSndcpDcompExpand rs payload (segmentRoom payload) dcomp =
      if segmentRoom payload < data.length then .error .overrun else .ok ⟨some data, rs'⟩ := by
  have hroom : ¬segmentRoom data < data.length := by
    unfold segmentRoom maxDatadecomprFac
    omega
  unfold OsmoSgsn.Sndcp.gprsSndcpDcompExpand
  cases h with
  | asIs h => exact ⟨rs, (if_pos rfl).trans (if_neg hroom).symm⟩
  | @tagged e i _ h hsent =>
    have he : e ∈ entities := List.mem_of_find?_eq_some h
    cases hsent with
    | asIs => exact ⟨rs, (if_pos rfl).trans (if_neg hroom).symm⟩
    | compressed hp0 hlen hexpands =>
      obtain ⟨hp1, hp2, hon⟩ := hpeers e he
      obtain ⟨hne, hback, hidx⟩ := htags nsapi e h 1 le_rfl
        (List.length_pos_iff.mpr (hcomp e he))
      have hexpands' : Expands (params' e) payload data := by
        unfold Expands at hexpands ⊢
        rwa [← hp1, ← hp2]
      obtain ⟨hclass, halgo⟩ := honly e he
      rw [if_neg hne]
      dsimp only
      rcases hrs.lookup fun x ↦ gprsSndcpCompGetComp e 1 ∈ x.comp with
        ⟨hnone, -⟩ | ⟨x, hsome, hfound, hsettled⟩
      · exact absurd (hback.symm.trans hnone) (Option.some_ne_none e)
      · obtain heq : e = x.toCompEntity := Option.some.inj (hback.symm.trans hsome)
        subst heq
        have hsupported : x.supported = true := decide_eq_true ⟨hclass, halgo⟩
        obtain ⟨comp, hexpand⟩ := v42bisExpandUnitdata_expands hsettled (hon hp0) hexpands'
          (segmentRoom payload)
        refine ⟨setDcompState rs (rs.findIdx fun y ↦
          gprsSndcpCompGetComp x.toCompEntity 1 ∈ y.comp) comp, ?_⟩
        rw [hfound]
        dsimp only
        rw [if_pos hsupported, hidx, hexpand]
        split
        · rfl
        · rfl

/-- An entity for NSAPI 5 with one tag, and what it is created with. -/
def exampleDcomp : CompEntity := ⟨0, [5], [1], .dataCompression, 0⟩
def exampleDcompParams : DcompParams := ⟨3, 512, 6, by decide, by decide⟩

end BothEnds

end OsmoSgsn.Sndcp
