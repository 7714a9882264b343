import OsmoSgsn.Library.TwoRuns
import OsmoSgsn.Gtphub.UserData

/-!
# Stale octets

The receive buffer is static. What stands in it behind a datagram is left from earlier ones, which
may be from somebody else. What the hub does must not depend on it.

A datagram of version 1 is read and written as if its header were long. That stays inside of it
unless it has just the octets of a short header: then the sequence number is what an earlier
datagram has left, and it decides where the packet goes. The first part shows that all other
datagrams decide alone, by comparing two runs of the code step by step. The second part is about
short ones. Some of their types are dropped whatever the number is; for every other one there is a
hub in which the stale octets matter.
-/

namespace OsmoSgsn.Gtphub

open EStateM

/-! ## Two packets of one datagram -/

/-- Two packets that differ behind a number of octets only. -/
structure SameDatagram (n : ℕ) (p p' : GtpPacketDesc) : Prop extends SamePacket p p' where
  seq : p'.seq = p.seq
  headerTei : p'.headerTei = p.headerTei
  tun : p'.tun = p.tun
  data : p'.data.take n = p.data.take n

/-- Two values that are absent together, or of one kind. -/
inductive Both {α β : Type} (R : α → β → Prop) : Option α → Option β → Prop
  | none : Both R none none
  | some {a : α} {b : β} (h : R a b) : Both R (some a) (some b)

section Packets

variable {n : ℕ} {p p' : GtpPacketDesc}

theorem take_put16 {data data' : Bytes} (h : data'.take n = data.take n) (i v : ℕ) :
    (put16 data' i v).take n = (put16 data i v).take n := by
  simp only [put16, List.take_set, h]

theorem SameDatagram.setSeq (hp : SameDatagram n p p') (seq : ℕ) :
    SameDatagram n (p.setSeq seq) (p'.setSeq seq) :=
  { hp with seq := rfl, data := take_put16 hp.data 8 seq }

theorem SameDatagram.setTei (hp : SameDatagram n p p') (tei : ℕ) :
    SameDatagram n (p.setTei tei) (p'.setTei tei) :=
  { hp with headerTei := rfl, data := take_put16 (take_put16 hp.data ..) .. }

theorem SameDatagram.setIe (hp : SameDatagram n p p') (i : ℕ) (x : Ie) :
    SameDatagram n (p.setIe i x) (p'.setIe i x) :=
  { hp with ie := by rw [GtpPacketDesc.setIe, GtpPacketDesc.setIe, hp.ie] }

theorem SameDatagram.gsnAddrPut (hp : SameDatagram n p p') (addr : GsnAddr) (inst : ℕ) :
    Both (SameDatagram n) (gsnAddrPut addr p inst) (gsnAddrPut addr p' inst) := by
  unfold Gtphub.gsnAddrPut
  rw [hp.rc, hp.ie]
  by_cases hrc : p.rc ≠ .pduC
  · rw [if_pos hrc, if_pos hrc]
    exact .none
  · rw [if_neg hrc, if_neg hrc]
    cases gtpieGetie p.ie gtpieGsnAddr inst with
    | none => exact .none
    | some i =>
      cases gtpieFind p.ie gtpieGsnAddr inst with
      | none => exact .none
      | some x =>
        simp only
        by_cases hlen : x.tlvV.length = addr.length
        · rw [if_pos hlen, if_pos hlen]
          exact .some (hp.setIe i _)
        · rw [if_neg hlen, if_neg hlen]
          exact .none

theorem SameDatagram.mapRestartCounter (hp : SameDatagram n p p') (restartCounter : ℕ) :
    SameDatagram n (gtphubMapRestartCounter restartCounter p)
      (gtphubMapRestartCounter restartCounter p') := by
  unfold gtphubMapRestartCounter
  rw [hp.rc, hp.ie]
  by_cases hrc : p.rc ≠ .pduC
  · rw [if_pos hrc, if_pos hrc]
    exact hp
  · rw [if_neg hrc, if_neg hrc]
    cases gtpieGetie p.ie gtpieRecovery 0 with
    | none => exact hp
    | some i => exact hp.setIe i _

end Packets

/-! ## Two runs -/

section Runs

variable {lib : Lib} {n : ℕ} {p p' : GtpPacketDesc} {fromPort toPort : PeerPort} {h : Hub}

theorem agree_unmapSeq (hp : SameDatagram n p p') :
    agree (fun x x' ↦ SameDatagram n x.1 x'.1 ∧ x.2 = x'.2) (gtphubUnmapSeq p fromPort)
      (gtphubUnmapSeq p' fromPort) h := by
  unfold gtphubUnmapSeq
  rw [hp.version, hp.seq]
  by_cases hversion : p.version ≠ 1
  · rw [if_pos hversion, if_pos hversion]
    exact agree_throw _
  · rw [if_neg hversion, if_neg hversion]
    apply agree_get_bind
    cases h.nrMapGetInv fromPort.peer p.seq with
    | some m => exact agree_pure ⟨hp.setSeq _, rfl⟩
    | none => exact agree_pure ⟨hp, rfl⟩

theorem agree_unmapHeaderTei (hp : SameDatagram n p p') :
    agree (Both fun x x' ↦ SameDatagram n x.1 x'.1 ∧ x.2 = x'.2) (gtphubUnmapHeaderTei p fromPort)
      (gtphubUnmapHeaderTei p' fromPort) h := by
  unfold gtphubUnmapHeaderTei
  rw [hp.version, hp.headerTeiRx]
  by_cases hversion : p.version ≠ 1
  · rw [if_pos hversion, if_pos hversion]
    exact agree_throw _
  · rw [if_neg hversion, if_neg hversion]
    by_cases hzero : p.headerTeiRx = 0
    · rw [if_pos hzero, if_pos hzero]
      exact agree_pure (.some ⟨{ hp with version := rfl, headerTeiRx := rfl, tun := rfl }, rfl⟩)
    · rw [if_neg hzero, if_neg hzero]
      apply agree_get_bind
      rw [Hub.unmapTei_congr hp.toSamePacket]
      cases h.gtphubUnmapTei p fromPort with
      | none => exact agree_pure .none
      | some t =>
        simp only [hp.timestamp, hp.side, hp.plane]
        refine agree_bind_same fun _ h₁ ↦ agree_pure (.some ⟨?_, rfl⟩)
        exact { hp.setTei _ with tun := rfl }

/-- What `gtphub_unmap` gives of two packets of one datagram. -/
structure SameUnmapped (n : ℕ) (r r' : Unmapped) : Prop where
  p : SameDatagram n r.p r'.p
  final : r.final = r'.final
  fromSeq : r.fromSeq = r'.fromSeq

theorem agree_unmap (hp : SameDatagram n p p') (toProxy : Option PeerPort) :
    agree (Both (SameUnmapped n)) (gtphubUnmap p fromPort toProxy) (gtphubUnmap p' fromPort toProxy)
      h := by
  refine agree_bind (agree_unmapSeq hp) ?_
  rintro ⟨p₁, fromSeq⟩ ⟨p₁', _⟩ h₁ ⟨hp₁, rfl⟩
  refine agree_bind (agree_unmapHeaderTei hp₁) ?_
  rintro _ _ h₂ (_ | ⟨hp₂, heq⟩)
  · exact agree_pure .none
  · simp only [← heq]
    split
    · exact agree_pure (.some ⟨hp₂, rfl, rfl⟩)
    · exact agree_pure (.some ⟨hp₂, rfl, rfl⟩)

theorem agree_mapSeq (hp : SameDatagram n p p') :
    agree (SameDatagram n) (gtphubMapSeq p fromPort toPort)
      (gtphubMapSeq p' fromPort toPort) h := by
  unfold gtphubMapSeq
  rw [hp.seq, hp.timestamp, hp.version]
  refine agree_bind_same fun repl h₁ ↦ ?_
  by_cases hversion : p.version ≠ 1
  · rw [if_pos hversion, if_pos hversion]
    exact agree_throw _
  · rw [if_neg hversion, if_neg hversion]
    exact agree_pure (hp.setSeq repl)

/-! ### Creating and deleting -/

theorem agree_mapTei (hp : SameDatagram n p p') (t : ℕ) (plane : Plane) (tei : ℕ) :
    agree (SameDatagram n) (mapTei p t plane tei) (mapTei p' t plane tei) h := by
  unfold mapTei
  rw [hp.side, hp.ie]
  refine agree_bind_same fun h₁ _ ↦ agree_bind_same fun _ _ ↦ agree_bind_same fun b h₂ ↦ ?_
  cases b with
  | false => exact agree_throw _
  | true =>
    cases gtpieGetie p.ie plane.ieType 0 with
    | none => exact agree_pure hp
    | some i => exact agree_pure (hp.setIe i _)

theorem agree_createPlane (hp : SameDatagram n p p') (t : ℕ) (plane : Plane) :
    agree (Both (SameDatagram n)) (gtphubCreatePlane lib p fromPort t plane)
      (gtphubCreatePlane lib p' fromPort t plane) h := by
  have haddr : gsnAddrGet p' plane.idx = gsnAddrGet p plane.idx := by
    simp only [gsnAddrGet, hp.rc, hp.ie]
  have htei : teiFromIe p' plane = teiFromIe p plane := by simp only [teiFromIe, hp.type, hp.ie]
  unfold gtphubCreatePlane
  rw [haddr, htei, hp.side]
  cases gsnAddrGet p plane.idx with
  | none => exact agree_pure .none
  | some addr =>
    cases teiFromIe p plane with
    | none => exact agree_pure .none
    | some tei =>
      apply agree_get_bind
      refine agree_bind_same fun pp h₁ ↦ agree_bind_same fun _ h₂ ↦ ?_
      by_cases hzero : tei = 0
      · rw [if_pos hzero, if_pos hzero]
        apply agree_get_bind
        split
        · exact agree_pure .none
        · exact agree_pure (hp.gsnAddrPut ..)
      · rw [if_neg hzero, if_neg hzero]
        refine agree_bind (agree_mapTei hp t plane tei) fun p₁ p₁' h₃ hp₁ ↦ ?_
        rw [hp₁.side]
        exact agree_pure (hp₁.gsnAddrPut ..)

theorem agree_createPlanes (hp : SameDatagram n p p') (t : ℕ) :
    agree (Both (SameDatagram n)) (gtphubCreatePlanes lib p fromPort t)
      (gtphubCreatePlanes lib p' fromPort t) h := by
  refine agree_bind (agree_createPlane hp t .ctrl) ?_
  rintro _ _ h₁ (_ | hp₁)
  · exact agree_pure .none
  · exact agree_createPlane hp₁ t .user

theorem agree_handleCreatePdpCtx (hp : SameDatagram n p p') (choice : ℕ) :
    agree (Both (SameDatagram n)) (gtphubHandleCreatePdpCtx lib choice p fromPort toPort)
      (gtphubHandleCreatePdpCtx lib choice p' fromPort toPort) h := by
  unfold gtphubHandleCreatePdpCtx
  rw [hp.type, hp.side, hp.tun, hp.timestamp, hp.headerTeiRx]
  split
  · cases p.side with
    | ggsn => exact agree_pure .none
    | sgsn =>
      cases p.tun with
      | some t => exact agree_pure .none
      | none =>
        refine agree_bind_same fun t h₁ ↦ ?_
        apply agree_createPlanes
        exact { hp with
          type := rfl, side := rfl, tun := rfl, timestamp := rfl, headerTeiRx := rfl }
  · cases p.side with
    | sgsn => exact agree_pure .none
    | ggsn =>
      cases p.tun with
      | none => exact agree_throw _
      | some t =>
        apply agree_get_bind
        split
        · exact agree_throw _
        · exact agree_createPlanes hp t

theorem agree_handleDeleteReq (hp : SameDatagram n p p') :
    agree (Both (SameDatagram n)) (gtphubHandleDeleteReq p) (gtphubHandleDeleteReq p') h := by
  unfold gtphubHandleDeleteReq
  rw [hp.tun, hp.ie, hp.timestamp]
  split
  · exact agree_bind_same fun _ _ ↦ agree_bind_same fun _ _ ↦ agree_pure (.some hp)
  · exact agree_pure .none

theorem agree_handleDeleteRsp (hp : SameDatagram n p p') :
    agree (Both (SameDatagram n)) (gtphubHandleDeleteRsp p) (gtphubHandleDeleteRsp p') h := by
  unfold gtphubHandleDeleteRsp
  simp only [hp.tun, hp.ie, hp.side]
  cases p.tun with
  | none => exact agree_pure .none
  | some t =>
    apply agree_get_bind
    cases h.pendingDeletes.find? (·.tun = t) with
    | none => exact agree_pure .none
    | some pd =>
      refine agree_bind_same fun _ h₁ ↦ ?_
      split
      · refine agree_bind_same fun _ h₂ ↦ agree_bind_same fun _ h₃ ↦ agree_pure (.some ?_)
        exact { hp with side := rfl, tun := rfl, ie := rfl }
      · exact agree_bind_same fun _ h₂ ↦ agree_pure .none

theorem agree_handlePdpCtx (hp : SameDatagram n p p') (choice : ℕ) :
    agree (Both (SameDatagram n)) (gtphubHandlePdpCtx lib choice p fromPort toPort)
      (gtphubHandlePdpCtx lib choice p' fromPort toPort) h := by
  unfold gtphubHandlePdpCtx
  rw [hp.type]
  split
  · exact agree_handleCreatePdpCtx hp choice
  · split
    · exact agree_handleDeleteReq hp
    · split
      · exact agree_handleDeleteRsp hp
      · exact agree_pure (.some hp)

/-! ### From a packet to a verdict -/

/-- The end of a packet without a destination is that of its type and its tunnel. -/
theorem noDestination_congr (hp : SameDatagram n p p') :
    gtphubNoDestination p' = gtphubNoDestination p := by
  unfold gtphubNoDestination
  rw [hp.tun, hp.type, hp.side]

theorem resolveGgsn_congr (hp : SameDatagram n p p') (clock : ℕ) :
    gtphubResolveGgsn lib p' clock = gtphubResolveGgsn lib p clock := by
  unfold gtphubResolveGgsn
  rw [hp.ie]

theorem checkRestartCounter_congr (hp : SameDatagram n p p') :
    gtphubCheckRestartCounter p' fromPort = gtphubCheckRestartCounter p fromPort := by
  unfold gtphubCheckRestartCounter
  rw [getRestartCount, hp.ie]
  rfl

/-- Two routes for one datagram. -/
structure SameRoute (n : ℕ) (r r' : Route) : Prop where
  p : SameDatagram n r.p r'.p
  fromPort : r.fromPort = r'.fromPort
  toPort : r.toPort = r'.toPort
  fromSeq : r.fromSeq = r'.fromSeq

/-- Two packets without or with a destination. -/
inductive SameLocated (n : ℕ) : Verdict ⊕ Route → Verdict ⊕ Route → Prop
  | inl (v : Verdict) : SameLocated n (.inl v) (.inl v)
  | inr {r r' : Route} (h : SameRoute n r r') : SameLocated n (.inr r) (.inr r')

theorem agree_route {rx : Rx} (hp : SameDatagram n p p') :
    agree (SameLocated n) (gtphubRoute lib rx p fromPort) (gtphubRoute lib rx p' fromPort) h := by
  unfold gtphubRoute
  rw [checkRestartCounter_congr hp]
  refine agree_bind_same fun _ h₁ ↦ ?_
  apply agree_get_bind
  refine agree_bind (agree_unmap (hp.mapRestartCounter _) _) ?_
  rintro _ _ h₂ (_ | hr)
  · exact agree_pure (.inl .drop)
  · next r r' =>
    obtain ⟨p₁, final, fromSeq⟩ := r
    obtain ⟨p₁', final', fromSeq'⟩ := r'
    obtain ⟨hp₁, rfl, rfl⟩ := hr
    cases final with
    | some toPort => exact agree_pure (.inr ⟨hp₁, rfl, rfl, rfl⟩)
    | none =>
      simp only at hp₁ ⊢
      rw [resolveGgsn_congr hp₁, noDestination_congr hp₁]
      split
      · refine agree_bind_same fun o h₃ ↦ ?_
        cases o with
        | error e => exact agree_pure (.inl .drop)
        | ok o =>
          cases o with
          | none => exact agree_bind_same fun v h₄ ↦ agree_pure (.inl v)
          | some toPort => exact agree_pure (.inr ⟨hp₁, rfl, rfl, rfl⟩)
      · exact agree_bind_same fun v h₄ ↦ agree_pure (.inl v)

/-- Two verdicts about one datagram. -/
inductive SameVerdict (n : ℕ) : Verdict → Verdict → Prop
  | refl (v : Verdict) : SameVerdict n v v
  | forward (toPort : PeerPort) {p p' : GtpPacketDesc} (hp : SameDatagram n p p') :
    SameVerdict n (.forward toPort p) (.forward toPort p')

theorem agree_deliver {r r' : Route} (hr : SameRoute n r r') (choice : ℕ) :
    agree (SameVerdict n) (gtphubDeliver lib choice r) (gtphubDeliver lib choice r') h := by
  obtain ⟨p, fromPort, toPort, fromSeq⟩ := r
  obtain ⟨p', _, _, _⟩ := r'
  obtain ⟨hp, rfl, rfl, rfl⟩ := hr
  have hctrl :
      agree (Both (SameDatagram n)) (gtphubHandleCtrl lib choice ⟨p, fromPort, toPort, fromSeq⟩)
        (gtphubHandleCtrl lib choice ⟨p', fromPort, toPort, fromSeq⟩) h := by
    unfold gtphubHandleCtrl
    simp only at hp ⊢
    rw [hp.plane]
    split
    · exact agree_handlePdpCtx hp choice
    · exact agree_pure (.some hp)
  refine agree_bind hctrl ?_
  rintro _ _ h₁ (_ | hp₁)
  · exact agree_pure (.refl .drop)
  · next p₁ p₁' =>
    simp only [hp₁.tun, hp₁.type]
    split
    · exact agree_throw _
    · have hseq : agree (SameDatagram n) (gtphubOutSeq ⟨p, fromPort, toPort, fromSeq⟩ p₁)
          (gtphubOutSeq ⟨p', fromPort, toPort, fromSeq⟩ p₁') h₁ := by
        cases fromSeq with
        | none => exact agree_mapSeq hp₁
        | some _ => exact agree_pure hp₁
      refine agree_bind hseq fun p₂ p₂' h₂ hp₂ ↦ ?_
      rw [hp₂.tun, hp₂.plane, hp₂.type, hp₂.side]
      exact agree_bind_same fun _ h₃ ↦ agree_pure (.forward toPort hp₂)

end Runs

/-! ## Datagrams that decide alone -/

section Decode

variable {p : GtpPacketDesc} {data : Bytes}

theorem octet_of_take {data' : Bytes} {n i : ℕ} (h : data'.take n = data.take n) (hi : i < n) :
    octet data' i = octet data i := by
  rw [← octet_take hi, h, octet_take hi]

theorem be16_of_take {data' : Bytes} {n i : ℕ} (h : data'.take n = data.take n) (hi : i + 1 < n) :
    be16 data' i = be16 data i := by
  rw [be16, be16, octet_of_take h (by omega), octet_of_take h hi]

theorem be32_of_take {data' : Bytes} {n i : ℕ} (h : data'.take n = data.take n) (hi : i + 3 < n) :
    be32 data' i = be32 data i := by
  rw [be32, be32, be16_of_take h (by omega), be16_of_take h (by omega)]

theorem validateGtp0Header_withData (h : data.take p.dataLen = p.data.take p.dataLen) :
    validateGtp0Header { p with data := data } = { validateGtp0Header p with data := data } := by
  unfold validateGtp0Header
  simp only
  by_cases hlen : p.dataLen < gtp0HeaderSize
  · rw [if_pos hlen, if_pos hlen]
  · have hlen' := hlen
    rw [gtp0HeaderSize] at hlen'
    rw [if_neg hlen, if_neg hlen, octet_of_take h (by omega), be16_of_take h (by omega),
      be16_of_take h (by omega)]
    split_ifs <;> rfl

/-- All that is read of a packet with a long header is in it. -/
theorem validateGtp1Header_withData (h : data.take p.dataLen = p.data.take p.dataLen)
    (hlong : p.dataLen ≠ gtp1HeaderSizeShort) :
    validateGtp1Header { p with data := data } = { validateGtp1Header p with data := data } := by
  unfold validateGtp1Header
  simp only
  by_cases hlen : p.dataLen < gtp1HeaderSizeLong ∧ p.dataLen ≠ gtp1HeaderSizeShort
  · rw [if_pos hlen, if_pos hlen]
  · have hlen' : ¬ p.dataLen < 12 := fun hlt ↦ hlen ⟨hlt, hlong⟩
    rw [if_neg hlen, if_neg hlen, octet_of_take h (by omega), be16_of_take h (by omega),
      be16_of_take h (by omega), be32_of_take h (by omega)]
    split_ifs <;> rfl

/-- A datagram of version 1 with a short header. -/
def Rx.Short (rx : Rx) : Prop :=
  rx.received = gtp1HeaderSizeShort ∧ (octet rx.buf 0).toNat / 2 ^ 5 = 1

theorem validateGtpHeader_withData (h : data.take p.dataLen = p.data.take p.dataLen)
    (hlong : ¬ (p.dataLen = gtp1HeaderSizeShort ∧ (octet p.data 0).toNat / 2 ^ 5 = 1)) :
    validateGtpHeader { p with data := data } = { validateGtpHeader p with data := data } := by
  unfold validateGtpHeader
  simp only
  by_cases hlen : p.dataLen < 1
  · rw [if_pos hlen, if_pos hlen]
  · rw [if_neg hlen, if_neg hlen, octet_of_take h (by omega)]
    split
    · exact validateGtp0Header_withData
        (p := { p with version := (octet p.data 0).toNat / 2 ^ 5 }) h
    · split
      · next hone =>
        exact validateGtp1Header_withData
          (p := { p with version := (octet p.data 0).toNat / 2 ^ 5 })
          h fun hshort ↦ hlong ⟨hshort, hone⟩
      · rfl

theorem validateGtpHeader_data (p : GtpPacketDesc) :
    (validateGtpHeader p).data = p.data ∧ (validateGtpHeader p).dataLen = p.dataLen := by
  unfold validateGtpHeader validateGtp0Header validateGtp1Header
  simp only
  split_ifs <;> exact ⟨rfl, rfl⟩

theorem gtpDecode_data (lib : Lib) (buf : Bytes) (n : ℕ) (s : Side) (plane : Plane) (now : ℕ) :
    (gtpDecode lib buf n s plane now).data = buf ∧
      (gtpDecode lib buf n s plane now).dataLen = n := by
  obtain ⟨q, hq, heq, -⟩ := gtpDecode_header lib buf n s plane now
  rw [heq, hq]
  exact validateGtpHeader_data _

/-- Any datagram but a short one is read in the same way from two buffers. -/
theorem gtpDecode_same (lib : Lib) {buf buf' : Bytes} {n : ℕ} (h : buf'.take n = buf.take n)
    (hlong : ¬ (n = gtp1HeaderSizeShort ∧ (octet buf 0).toNat / 2 ^ 5 = 1)) (s : Side)
    (plane : Plane) (now : ℕ) :
    SameDatagram n (gtpDecode lib buf n s plane now) (gtpDecode lib buf' n s plane now) := by
  have hval : validateGtpHeader
        { data := buf', dataLen := n, plane := plane, side := s, timestamp := now } =
      { validateGtpHeader
          { data := buf, dataLen := n, plane := plane, side := s, timestamp := now } with
        data := buf' } :=
    validateGtpHeader_withData
      (p := { data := buf, dataLen := n, plane := plane, side := s, timestamp := now }) h hlong
  have heq : gtpDecode lib buf' n s plane now =
      { gtpDecode lib buf n s plane now with data := buf' } := by
    unfold gtpDecode
    simp only [hval, h]
    split_ifs
    · rfl
    · rfl
    · rfl
    · split <;> rfl
  obtain ⟨hdata, -⟩ := gtpDecode_data lib buf n s plane now
  rw [heq]
  exact ⟨⟨rfl, rfl, rfl, rfl, rfl, rfl, rfl, rfl⟩, rfl, rfl, rfl, by rw [hdata, h]⟩

end Decode

/-! ### What is seen of a call -/

/-- What `gtphub_handle_buf` gives to its caller: the length, the bind and the address to send to,
and of the octets as many as were received. -/
structure Output where
  len : ℤ
  dest : Option (Side × Sockaddr)
  octets : Bytes
  deriving DecidableEq, Repr

/-- What the caller sees of a verdict. -/
def Verdict.output (rx : Rx) : Verdict → Output
  | .drop => ⟨-1, none, []⟩
  | .done => ⟨0, none, []⟩
  | .reply toAddr data => ⟨data.length, some (rx.side, toAddr), data.take rx.received⟩
  | .forward toPort p => ⟨rx.received, some (rx.side.other, toPort.sa), p.data.take rx.received⟩

/-- The same datagram in another buffer. -/
def Rx.inBuf (rx : Rx) (buf : Bytes) : Rx := { rx with buf := buf }

/-- In a hub, what is done for a datagram is the same whatever stands behind it in the buffer: the
call gives the same, or faults in the same way, and leaves the same hub. -/
def DecidedAlone (lib : Lib) (h : Hub) (rx : Rx) : Prop :=
  ∀ buf, buf.length = rx.buf.length → buf.take rx.received = rx.buf.take rx.received →
    (Verdict.output rx <$> gtphubHandleBuf lib (rx.inBuf buf)) h =
      (Verdict.output rx <$> gtphubHandleBuf lib rx) h

section Alone

variable {lib : Lib} {h : Hub} {rx : Rx}

theorem agree_handleBuf {buf : Bytes} (hbuf : buf.take rx.received = rx.buf.take rx.received)
    (hlong : ¬ rx.Short) :
    agree (SameVerdict rx.received) (gtphubHandleBuf lib rx)
      (gtphubHandleBuf lib (rx.inBuf buf)) h := by
  have hp := gtpDecode_same lib hbuf hlong rx.side rx.plane rx.now
  have hlocate :
      agree (SameLocated rx.received) (gtphubLocate lib rx)
        (gtphubLocate lib (rx.inBuf buf)) h := by
    unfold gtphubLocate
    dsimp only [Rx.inBuf]
    rw [hp.rc, hp.type, hp.seq]
    split
    · exact agree_pure (.inl .drop)
    · split
      · exact agree_pure (.inl _)
      · refine agree_bind_same fun o h₁ ↦ ?_
        cases o with
        | none => exact agree_pure (.inl .drop)
        | some fromPort => exact agree_route hp
  refine agree_bind hlocate ?_
  rintro _ _ h₁ (v | hr)
  · exact agree_pure (.refl v)
  · exact agree_deliver hr rx.choice

/-- **Long datagrams decide alone.** -/
theorem decidedAlone_of_long (hlong : ¬ rx.Short) : DecidedAlone lib h rx := by
  intro buf _ hbuf
  refine (map_eq_of_agree (agree_handleBuf hbuf hlong) ?_).symm
  rintro _ _ (v | ⟨toPort, hp⟩)
  · rfl
  · exact congrArg (Output.mk _ _) hp.data.symm

end Alone

/-! ## Short datagrams -/

/-- The type of a message and the TEI in the header of a datagram of version 1. -/
def Rx.type (rx : Rx) : ℕ := (octet rx.buf 1).toNat
@[inherit_doc Rx.type] def Rx.tei (rx : Rx) : ℕ := be32 rx.buf 4

/-- What is read of a short datagram. The sequence number is stale. -/
def Rx.shortPacket (rx : Rx) : GtpPacketDesc where
  data := rx.buf
  dataLen := gtp1HeaderSizeShort
  headerLen := gtp1HeaderSizeShort
  version := 1
  type := rx.type
  seq := be16 rx.buf 8
  headerTeiRx := rx.tei
  headerTei := rx.tei
  rc := if rx.plane = .user then .pduU else .tiny
  plane := rx.plane
  side := rx.side
  timestamp := rx.now

/-- The messages of the control plane that are dropped without their elements, or without or with a
tunnel, wherever they lead. -/
def Rx.Swallowed (rx : Rx) : Prop :=
  rx.plane = .ctrl ∧ (rx.type = gtpDeletePdpReq ∨
    rx.type = gtpCreatePdpReq ∧ (rx.tei ≠ 0 ∨ rx.side = .ggsn) ∨
    rx.type = gtpCreatePdpRsp ∧ (rx.tei ≠ 0 ∨ rx.side = .sgsn) ∨
    rx.type = gtpDeletePdpRsp ∧ rx.tei = 0)

section Short

variable {lib : Lib} {h : Hub} {rx : Rx} {p : GtpPacketDesc} {fromPort toPort : PeerPort}

theorem gtpDecode_short (hs : rx.Short) :
    gtpDecode lib rx.buf rx.received rx.side rx.plane rx.now = rx.shortPacket := by
  obtain ⟨hlen, hversion⟩ := hs
  have hval : validateGtpHeader
      { data := rx.buf, dataLen := rx.received, plane := rx.plane, side := rx.side
        timestamp := rx.now } = { rx.shortPacket with rc := .tiny } := by
    unfold validateGtpHeader validateGtp1Header
    simp only [hversion, hlen]
    rfl
  unfold gtpDecode
  simp only [hval]
  by_cases huser : rx.plane = .user
  · rw [if_neg (by decide), if_pos huser, Rx.shortPacket, if_pos huser]
  · rw [if_neg (by decide), if_neg huser, if_pos (by decide), Rx.shortPacket, if_neg huser]

/-- Without elements the loop over the planes ends at once. -/
theorem createPlanes_of_rc (hrc : p.rc ≠ .pduC) (t : ℕ) :
    gtphubCreatePlanes lib p fromPort t h = .ok none h := by
  have haddr : gsnAddrGet p Plane.ctrl.idx = none := by rw [gsnAddrGet, if_neg hrc]
  simp only [gtphubCreatePlanes, gtphubCreatePlane, haddr]
  rfl

theorem shortPacket_rc : rx.shortPacket.rc ≠ .pduC := by
  cases hplane : rx.plane <;> simp [Rx.shortPacket, hplane]

theorem shortPacket_valid (rx : Rx) : rx.shortPacket.rc.valid = true := by
  cases hplane : rx.plane <;> simp [Rx.shortPacket, hplane, GtpRc.valid]

/-- A message that is dropped wherever it leads. -/
theorem handleCtrl_swallowed {choice : ℕ} (hsw : rx.Swallowed) (hp : SamePacket rx.shortPacket p)
    (hnone : rx.tei = 0 → p.tun = none)
    (hsome : rx.tei ≠ 0 → ∃ t, p.tun = some t ∧ (h.tun t).teiRepl = rx.tei)
    {fromSeq : Option PeerPort} :
    gtphubHandleCtrl lib choice ⟨p, fromPort, toPort, fromSeq⟩ h = .ok none h := by
  obtain ⟨hctrl, hsw⟩ := hsw
  have htype : p.type = rx.type := hp.type
  have hside : p.side = rx.side := hp.side
  have hie : p.ie = [] := hp.ie
  have hrc : p.rc ≠ .pduC := by
    rw [hp.rc]
    exact shortPacket_rc
  have hteiRx : p.headerTeiRx = rx.tei := hp.headerTeiRx
  rw [gtphubHandleCtrl, if_pos (hp.plane.trans hctrl), gtphubHandlePdpCtx]
  simp only [htype]
  rcases hsw with hreq | ⟨hreq, hcond⟩ | ⟨hrsp, hcond⟩ | ⟨hrsp, hzero⟩
  · rw [hreq, if_neg (by decide), if_pos rfl, gtphubHandleDeleteReq, hie]
    cases p.tun <;> rfl
  · rw [hreq, if_pos (.inl rfl), gtphubHandleCreatePdpCtx, htype, hreq, if_pos rfl, hside]
    rcases hcond with hnonzero | hggsn
    · obtain ⟨t, htun, -⟩ := hsome hnonzero
      rw [htun]
      cases rx.side <;> rfl
    · rw [hggsn]
      rfl
  · rw [hrsp, if_pos (.inr rfl), gtphubHandleCreatePdpCtx, htype, hrsp, if_neg (by decide), hside]
    rcases hcond with hnonzero | hsgsn
    · obtain ⟨t, htun, hrepl⟩ := hsome hnonzero
      rw [htun]
      cases rx.side with
      | sgsn => rfl
      | ggsn =>
        simp only [get_bind_apply]
        rw [hrepl, hteiRx, if_neg (not_not.mpr rfl), createPlanes_of_rc hrc]
    · rw [hsgsn]
      rfl
  · rw [hrsp, if_neg (by decide), if_neg (by decide), if_pos rfl, gtphubHandleDeleteRsp,
      hnone hzero]
    rfl

/-- What is left to do for a message that is dropped wherever it leads: its sender is looked up, and
its tunnel is refreshed. -/
def gtphubSwallow (lib : Lib) (rx : Rx) : HubM Verdict := do
  match ← gtphubFromPort lib rx.side rx.plane rx.fromAddr with
  | none => return .drop
  | some fromPort =>
    if rx.tei = 0 then return .drop
    else
      match (← get).gtphubUnmapTei rx.shortPacket fromPort with
      | none => return .drop
      | some t => do
        expiryAdd .slowly (.tunnel t) rx.now
        return .drop

/-- A short packet as it is mapped back: with the tunnel of its TEI, if it has one. -/
structure ShortUnmapped (rx : Rx) (h : Hub) (p : GtpPacketDesc) : Prop extends
    SamePacket rx.shortPacket p where
  none : rx.tei = 0 → p.tun = none
  some : rx.tei ≠ 0 → ∃ t, p.tun = some t ∧ (h.tun t).teiRepl = rx.tei

theorem noDestination_drop (hp : p.type = gtpDeletePdpRsp → p.tun = none) :
    gtphubNoDestination p h = .ok .drop h := by
  unfold gtphubNoDestination
  cases htun : p.tun with
  | none => rfl
  | some t =>
    have htype : p.type ≠ gtpDeletePdpRsp := by
      intro hrsp
      rw [hp hrsp] at htun
      simp at htun
    simp only [if_neg htype]
    rfl

theorem noDestination_swallowed (hsw : rx.Swallowed) (hp : ShortUnmapped rx h p) :
    gtphubNoDestination p h = .ok .drop h := by
  refine noDestination_drop fun hrsp ↦ ?_
  have htype : rx.type = gtpDeletePdpRsp := hp.type.symm.trans hrsp
  rcases hsw.2 with hreq | ⟨hreq, -⟩ | ⟨hreq, -⟩ | ⟨-, hzero⟩
  · exact absurd (htype.symm.trans hreq) (by decide)
  · exact absurd (htype.symm.trans hreq) (by decide)
  · exact absurd (htype.symm.trans hreq) (by decide)
  · exact hp.none hzero

/-- A short packet says nothing about a restart. -/
theorem checkRestartCounter_short :
    gtphubCheckRestartCounter rx.shortPacket fromPort = pure () := rfl

theorem mapRestartCounter_short (restartCounter : ℕ) :
    gtphubMapRestartCounter restartCounter rx.shortPacket = rx.shortPacket := by
  rw [gtphubMapRestartCounter, if_pos shortPacket_rc]

/-- The end of `gtphub_handle_buf`, once the packet was mapped back. -/
theorem routeEnd_swallowed (hsw : rx.Swallowed) {h₁ : Hub} {o : Option Unmapped}
    (hun : gtphubUnmap rx.shortPacket fromPort (h.proxy rx.side.other rx.plane) h = .ok o h₁)
    (hsame : ∀ r ∈ o, ShortUnmapped rx h₁ r.p) :
    (gtphubRoute lib rx rx.shortPacket fromPort >>= fun x ↦ match x with
      | .inl v => pure v
      | .inr r => gtphubDeliver lib rx.choice r) h = .ok .drop h₁ := by
  have hinl (hr : gtphubRoute lib rx rx.shortPacket fromPort h = .ok (.inl .drop) h₁) :
      (gtphubRoute lib rx rx.shortPacket fromPort >>= fun x ↦ match x with
        | .inl v => pure v
        | .inr r => gtphubDeliver lib rx.choice r) h = .ok .drop h₁ := by
    rw [bind_apply_ok hr]
    rfl
  cases o with
  | none =>
    apply hinl
    simp only [gtphubRoute, checkRestartCounter_short, pure_bind_apply, get_bind_apply,
      mapRestartCounter_short]
    rw [bind_apply_ok hun]
    rfl
  | some r =>
    obtain ⟨p, final, fromSeq⟩ := r
    have hp : ShortUnmapped rx h₁ p := hsame _ rfl
    cases final with
    | some toPort =>
      have hroute : gtphubRoute lib rx rx.shortPacket fromPort h =
          .ok (.inr ⟨p, fromPort, toPort, fromSeq⟩) h₁ := by
        simp only [gtphubRoute, checkRestartCounter_short, pure_bind_apply, get_bind_apply,
      mapRestartCounter_short]
        rw [bind_apply_ok hun]
        rfl
      rw [bind_apply_ok hroute]
      simp only [gtphubDeliver]
      rw [bind_apply_ok (handleCtrl_swallowed hsw hp.toSamePacket hp.none hp.some)]
      rfl
    | none =>
      apply hinl
      simp only [gtphubRoute, checkRestartCounter_short, pure_bind_apply, get_bind_apply,
      mapRestartCounter_short]
      rw [bind_apply_ok hun]
      simp only [resolveGgsn_nil hp.ie]
      split
      · rw [pure_bind_apply]
        exact bind_apply_ok (noDestination_swallowed hsw hp)
      · exact bind_apply_ok (noDestination_swallowed hsw hp)

/-- Looking up the number changes nothing that matters later. -/
theorem unmapSeq_short (rx : Rx) (fromPort : PeerPort) (h : Hub) :
    ∃ p o, gtphubUnmapSeq rx.shortPacket fromPort h = .ok (p, o) h ∧
    SamePacket rx.shortPacket p ∧ p.tun = none := by
  have hversion : ¬ rx.shortPacket.version ≠ 1 := not_not.mpr rfl
  cases hinv : h.nrMapGetInv fromPort.peer rx.shortPacket.seq with
  | some m =>
    refine ⟨rx.shortPacket.setSeq m.orig, some m.origin, ?_,
      ⟨rfl, rfl, rfl, rfl, rfl, rfl, rfl, rfl⟩, rfl⟩
    rw [gtphubUnmapSeq, if_neg hversion, get_bind_apply, hinv]
    rfl
  | none =>
    refine ⟨rx.shortPacket, none, ?_, .refl _, rfl⟩
    rw [gtphubUnmapSeq, if_neg hversion, get_bind_apply, hinv]
    rfl

/-- Where mapping back the TEI of a packet gets to is where mapping it back gets to. -/
theorem unmap_some {toProxy o fromTei : Option PeerPort} {p₁ p₂ : GtpPacketDesc} {h₁ : Hub}
    (hseq : gtphubUnmapSeq p fromPort h = .ok (p₁, o) h)
    (htei : gtphubUnmapHeaderTei p₁ fromPort h = .ok (some (p₂, fromTei)) h₁) :
    ∃ r, gtphubUnmap p fromPort toProxy h = .ok (some r) h₁ ∧ r.p = p₂ ∧
      r.final = toProxy.or (o.or fromTei) ∧ (r.final ≠ none → r.fromSeq = o) := by
  simp only [gtphubUnmap]
  rw [bind_apply_ok hseq]
  simp only
  rw [bind_apply_ok htei]
  simp only
  cases toProxy.or (o.or fromTei) with
  | none => exact ⟨_, rfl, rfl, rfl, fun hne ↦ (hne rfl).elim⟩
  | some final => exact ⟨_, rfl, rfl, rfl, fun _ ↦ rfl⟩

theorem unmap_none {toProxy o : Option PeerPort} {p₁ : GtpPacketDesc} {h₁ : Hub}
    (hseq : gtphubUnmapSeq p fromPort h = .ok (p₁, o) h)
    (htei : gtphubUnmapHeaderTei p₁ fromPort h = .ok none h₁) :
    gtphubUnmap p fromPort toProxy h = .ok none h₁ := by
  simp only [gtphubUnmap]
  rw [bind_apply_ok hseq]
  simp only
  rw [bind_apply_ok htei]
  rfl

/-- A short packet is dropped after its tunnel is refreshed. -/
theorem routeEnd_eq (hsw : rx.Swallowed) :
    (gtphubRoute lib rx rx.shortPacket fromPort >>= fun x ↦ match x with
      | .inl v => pure v
      | .inr r => gtphubDeliver lib rx.choice r) h =
    (if rx.tei = 0 then pure .drop
      else match h.gtphubUnmapTei rx.shortPacket fromPort with
        | none => pure .drop
        | some t => do
          expiryAdd .slowly (.tunnel t) rx.now
          pure .drop : HubM Verdict) h := by
  obtain ⟨p, o, hseq, hsame, htun⟩ := unmapSeq_short rx fromPort h
  have hversion : ¬ p.version ≠ 1 := not_not.mpr hsame.version
  have hteiRx : p.headerTeiRx = rx.tei := hsame.headerTeiRx
  have hlook : h.gtphubUnmapTei p fromPort = h.gtphubUnmapTei rx.shortPacket fromPort :=
    Hub.unmapTei_congr hsame
  by_cases hzero : rx.tei = 0
  · have htei : gtphubUnmapHeaderTei p fromPort h =
        .ok (some ({ p with tun := none }, none)) h := by
      rw [gtphubUnmapHeaderTei, if_neg hversion, if_pos (hteiRx.trans hzero)]
      rfl
    obtain ⟨r, hun, hr, -⟩ := unmap_some hseq htei
    rw [if_pos hzero]
    refine routeEnd_swallowed hsw hun ?_
    rintro _ ⟨⟩
    rw [hr]
    exact { hsame with none := fun _ ↦ rfl, some := fun hne ↦ (hne hzero).elim }
  · rw [if_neg hzero]
    cases hfind : h.gtphubUnmapTei rx.shortPacket fromPort with
    | none =>
      have htei : gtphubUnmapHeaderTei p fromPort h = .ok none h := by
        rw [gtphubUnmapHeaderTei, if_neg hversion, if_neg (hteiRx ▸ hzero), get_bind_apply, hlook,
          hfind]
        rfl
      refine routeEnd_swallowed hsw (unmap_none hseq htei) ?_
      rintro _ ⟨⟩
    | some t =>
      have hlookup : gtphubUnmapHeaderTei p fromPort h = (do
          expiryAdd .slowly (.tunnel t) rx.now
          let te := (h.tun t).endpoint p.side.other p.plane
          return some ({ p.setTei te.teiOrig with tun := some t }, te.peer) : HubM _) h := by
        rw [gtphubUnmapHeaderTei, if_neg hversion, if_neg (hteiRx ▸ hzero), get_bind_apply, hlook,
          hfind]
        simp only [hsame.timestamp]
        rfl
      simp only
      cases hadd : expiryAdd .slowly (.tunnel t) rx.now h with
      | ok u h₁ =>
        rw [bind_apply_ok hadd] at hlookup ⊢
        obtain ⟨r, hun, hr, -⟩ := unmap_some hseq hlookup
        refine routeEnd_swallowed hsw hun ?_
        rintro _ ⟨⟩
        rw [hr]
        refine { hsame with none := fun heq ↦ (hzero heq).elim, some := fun _ ↦ ⟨t, rfl, ?_⟩ }
        have hrepl := List.find?_some hfind
        simp only [decide_eq_true_eq] at hrepl
        rw [tun_of_view (view_expiryAdd hadd)]
        exact hrepl.1
      | error e h₁ =>
        rw [bind_apply_error hadd] at hlookup ⊢
        have hun (toProxy : Option PeerPort) :
            gtphubUnmap rx.shortPacket fromPort toProxy h = .error e h₁ := by
          simp only [gtphubUnmap]
          rw [bind_apply_ok hseq]
          exact bind_apply_error hlookup
        have hroute : gtphubRoute lib rx rx.shortPacket fromPort h = .error e h₁ := by
          simp only [gtphubRoute, checkRestartCounter_short, pure_bind_apply, get_bind_apply,
            mapRestartCounter_short]
          exact bind_apply_error (hun _)
        exact bind_apply_error hroute

/-- A message that is dropped wherever it leads is dropped for what its datagram says. -/
theorem handleBuf_swallowed (hs : rx.Short) (hsw : rx.Swallowed) :
    gtphubHandleBuf lib rx = gtphubSwallow lib rx := by
  have hvalid := shortPacket_valid rx
  have hecho : rx.shortPacket.type ≠ gtpEchoReq := by
    change rx.type ≠ _
    rcases hsw.2 with htype | ⟨htype, -⟩ | ⟨htype, -⟩ | ⟨htype, -⟩ <;> rw [htype] <;> decide
  unfold gtphubHandleBuf gtphubLocate gtphubSwallow
  rw [gtpDecode_short hs]
  simp only [hvalid, if_neg hecho, Bool.not_true, Bool.false_eq_true, if_false, bind_assoc]
  refine bind_congr fun o ↦ ?_
  cases o with
  | none => rfl
  | some fromPort =>
    funext h
    refine (routeEnd_eq hsw).trans ?_
    simp only
    split <;> rfl

/-- A short datagram is one in any buffer. -/
theorem Rx.Short.inBuf {buf : Bytes} (hs : rx.Short)
    (hbuf : buf.take rx.received = rx.buf.take rx.received) :
    (rx.inBuf buf).Short ∧ (rx.inBuf buf).type = rx.type ∧ (rx.inBuf buf).tei = rx.tei := by
  have hlen : rx.received = 8 := hs.1
  refine ⟨⟨hs.1, ?_⟩, ?_, be32_of_take hbuf (by omega)⟩
  · rw [Rx.inBuf, octet_of_take hbuf (by omega)]
    exact hs.2
  · rw [Rx.type, Rx.inBuf, octet_of_take hbuf (by omega), Rx.type]

theorem decidedAlone_of_swallowed (hs : rx.Short) (hsw : rx.Swallowed) : DecidedAlone lib h rx := by
  intro buf _ hbuf
  obtain ⟨hs', htype, htei⟩ := hs.inBuf hbuf
  have hsw' : (rx.inBuf buf).Swallowed := by
    unfold Rx.Swallowed
    rw [htype, htei]
    exact hsw
  have hlook (h : Hub) (fromPort : PeerPort) :
      h.gtphubUnmapTei (rx.inBuf buf).shortPacket fromPort =
        h.gtphubUnmapTei rx.shortPacket fromPort := by
    simp only [Hub.gtphubUnmapTei, Rx.shortPacket, htei]
    rfl
  have heq : gtphubSwallow lib (rx.inBuf buf) = gtphubSwallow lib rx := by
    unfold gtphubSwallow
    simp only [htei, hlook]
    rfl
  rw [handleBuf_swallowed hs hsw, handleBuf_swallowed hs' hsw', heq]

/-- A short Echo Request is answered with the number that is left from an earlier datagram. What is
seen of it is not among the first octets of the answer. -/
theorem handleBuf_echo (hs : rx.Short) (hecho : rx.type = gtpEchoReq) :
    gtphubHandleBuf lib rx h =
      .ok (.reply rx.fromAddr (echoResponseData (be16 rx.buf 8) h.restartCounter)) h := by
  have hvalid := shortPacket_valid rx
  unfold gtphubHandleBuf gtphubLocate
  rw [gtpDecode_short hs]
  simp only [hvalid, Bool.not_true, Bool.false_eq_true, if_false]
  rw [if_pos (show rx.shortPacket.type = gtpEchoReq from hecho)]
  rfl

theorem decidedAlone_of_echo (hs : rx.Short) (hecho : rx.type = gtpEchoReq) :
    DecidedAlone lib h rx := by
  intro buf _ hbuf
  obtain ⟨hs', htype, -⟩ := hs.inBuf hbuf
  have hout (seq seq' : ℕ) : Verdict.output rx
        (.reply rx.fromAddr (echoResponseData seq h.restartCounter)) =
      Verdict.output rx (.reply rx.fromAddr (echoResponseData seq' h.restartCounter)) := by
    simp only [Verdict.output, hs.1]
    rfl
  simp only [Functor.map, EStateM.map]
  rw [handleBuf_echo hs hecho, handleBuf_echo hs' (htype.trans hecho)]
  simp only
  rw [show (rx.inBuf buf).fromAddr = rx.fromAddr from rfl, hout]

end Short

/-! ### A hub in which the stale octets matter -/

/-- The proxy that a datagram comes from, and a port on the other side. -/
def Rx.sender (rx : Rx) : PeerPort := ⟨rx.side, rx.plane, 0, [], 0, rx.fromAddr⟩
@[inherit_doc Rx.sender] def Rx.asker (rx : Rx) : PeerPort :=
  ⟨rx.side.other, rx.plane, 1, [], 0, rx.fromAddr⟩

/-- A hub that knows the sender of a datagram as a proxy, has one tunnel, which leads nowhere, with
the TEI of the datagram, and has given the sender one number for a request from the other side. -/
def exposingHub (rx : Rx) (seq : ℕ) : Hub :=
  { gtphubInit exampleCfg with
    proxy := fun s p ↦ if s = rx.side ∧ p = rx.plane then some rx.sender else none
    mappings := [⟨0, rx.asker, 0, seq⟩]
    tunnels := [0]
    tun := fun _ ↦ ⟨rx.tei, fun s _ ↦ ⟨if s = rx.side then some rx.sender else none, 0⟩⟩ }

section Exposed

variable {lib : Lib} {rx : Rx} {seq : ℕ}

theorem exposingHub_inBuf {buf : Bytes} (htei : (rx.inBuf buf).tei = rx.tei) :
    exposingHub (rx.inBuf buf) seq = exposingHub rx seq := by
  unfold exposingHub
  rw [htei]
  rfl

theorem exposingHub_unmapSeq : ∃ p, gtphubUnmapSeq rx.shortPacket rx.sender (exposingHub rx seq) =
      .ok (p, if be16 rx.buf 8 = seq then some rx.asker else none) (exposingHub rx seq) ∧
    SamePacket rx.shortPacket p := by
  have hversion : ¬ rx.shortPacket.version ≠ 1 := not_not.mpr rfl
  by_cases hseq : be16 rx.buf 8 = seq
  · refine ⟨rx.shortPacket.setSeq 0, ?_, ⟨rfl, rfl, rfl, rfl, rfl, rfl, rfl, rfl⟩⟩
    have hinv : (exposingHub rx seq).nrMapGetInv rx.sender.peer rx.shortPacket.seq =
        some ⟨0, rx.asker, 0, seq⟩ := by
      simp [Hub.nrMapGetInv, exposingHub, Rx.sender, Rx.shortPacket, hseq]
    rw [gtphubUnmapSeq, if_neg hversion, get_bind_apply, hinv, if_pos hseq]
    rfl
  · refine ⟨rx.shortPacket, ?_, .refl _⟩
    have hinv : (exposingHub rx seq).nrMapGetInv rx.sender.peer rx.shortPacket.seq = none := by
      simp [Hub.nrMapGetInv, exposingHub, Rx.sender, Rx.shortPacket, Ne.symm hseq]
    rw [gtphubUnmapSeq, if_neg hversion, get_bind_apply, hinv, if_neg hseq]
    rfl

theorem exposingHub_unmapTei (seq : ℕ) {p : GtpPacketDesc} (hp : SamePacket rx.shortPacket p) :
    ∃ p' h₁, gtphubUnmapHeaderTei p rx.sender (exposingHub rx seq) = .ok (some (p', none)) h₁ ∧
      h₁.view = (exposingHub rx seq).view ∧ ShortUnmapped rx h₁ p' := by
  have hversion : ¬ p.version ≠ 1 := not_not.mpr hp.version
  have hteiRx : p.headerTeiRx = rx.tei := hp.headerTeiRx
  have hside : p.side = rx.side := hp.side
  by_cases hzero : rx.tei = 0
  · refine ⟨{ p with tun := none }, exposingHub rx seq, ?_, rfl, ?_⟩
    · rw [gtphubUnmapHeaderTei, if_neg hversion, if_pos (hteiRx.trans hzero)]
      rfl
    · exact { hp with none := fun _ ↦ rfl, some := fun hne ↦ (hne hzero).elim }
  · have hfind : (exposingHub rx seq).gtphubUnmapTei p rx.sender = some 0 := by
      simp [Hub.gtphubUnmapTei, exposingHub, hteiRx, hside]
    have hadd : ∃ h₁, expiryAdd .slowly (.tunnel 0) p.timestamp (exposingHub rx seq) = .ok () h₁ :=
      ⟨_, rfl⟩
    obtain ⟨h₁, hadd⟩ := hadd
    have hview := view_expiryAdd hadd
    refine ⟨{ p.setTei 0 with tun := some 0 }, h₁, ?_, hview, ?_⟩
    · rw [gtphubUnmapHeaderTei, if_neg hversion, if_neg (hteiRx ▸ hzero), get_bind_apply, hfind]
      simp only
      rw [bind_apply_ok hadd]
      simp [exposingHub, hside]
      rfl
    · refine { hp with none := fun heq ↦ (hzero heq).elim, some := fun _ ↦ ⟨0, rfl, ?_⟩ }
      rw [tun_of_view hview]
      rfl

/-- Where the datagram leads depends on the octets that stand where the number would be. -/
theorem exposingHub_unmap (rx : Rx) (seq : ℕ) : ∃ r h₁,
    gtphubUnmap rx.shortPacket rx.sender ((exposingHub rx seq).proxy rx.side.other rx.plane)
      (exposingHub rx seq) = .ok (some r) h₁ ∧
    h₁.view = (exposingHub rx seq).view ∧ ShortUnmapped rx h₁ r.p ∧
    r.final = (if be16 rx.buf 8 = seq then some rx.asker else none) ∧
    (r.final ≠ none → r.fromSeq = some rx.asker) := by
  have hproxy : (exposingHub rx seq).proxy rx.side.other rx.plane = none := by simp [exposingHub]
  obtain ⟨p, hseq, hsame⟩ : ∃ p, gtphubUnmapSeq rx.shortPacket rx.sender (exposingHub rx seq) = _ ∧
    SamePacket rx.shortPacket p := exposingHub_unmapSeq
  obtain ⟨p', h₁, htei, hview, hp'⟩ := exposingHub_unmapTei seq hsame
  obtain ⟨r, hun, rfl, hfinal, hfromSeq⟩ : ∃ r, gtphubUnmap rx.shortPacket rx.sender none
      (exposingHub rx seq) = .ok (some r) h₁ ∧ _ := unmap_some hseq htei
  rw [hproxy]
  refine ⟨r, h₁, hun, hview, hp', by simpa using hfinal, fun hne ↦ ?_⟩
  rw [hfromSeq hne]
  by_cases heq : be16 rx.buf 8 = seq
  · rw [if_pos heq]
  · rw [if_neg heq] at hfinal
    exact (hne hfinal).elim

/-- What is done with the datagram in this hub, up to its destination. -/
theorem exposingHub_locate (lib : Lib) (seq : ℕ) (hs : rx.Short) (hecho : rx.type ≠ gtpEchoReq) :
    ∃ p h₁,
    h₁.view = (exposingHub rx seq).view ∧ ShortUnmapped rx h₁ p ∧
    gtphubLocate lib rx (exposingHub rx seq) =
      (if be16 rx.buf 8 = seq then pure (.inr ⟨p, rx.sender, rx.asker, some rx.asker⟩)
        else .inl <$> gtphubNoDestination p : HubM (Verdict ⊕ Route)) h₁ := by
  have hvalid := shortPacket_valid rx
  have hecho : rx.shortPacket.type ≠ gtpEchoReq := hecho
  have hfrom : gtphubFromPort lib rx.side rx.plane rx.fromAddr (exposingHub rx seq) =
      .ok (some rx.sender) (exposingHub rx seq) := by
    have hproxy : (exposingHub rx seq).proxy rx.side rx.plane = some rx.sender := by
      simp [exposingHub]
    rw [gtphubFromPort, get_bind_apply, hproxy]
    simp only [Rx.sender, if_true]
    rfl
  obtain ⟨r, h₁, hun, hview, hp, hfinal, hfromSeq⟩ := exposingHub_unmap rx seq
  refine ⟨r.p, h₁, hview, hp, ?_⟩
  unfold gtphubLocate
  rw [gtpDecode_short hs]
  simp only [hvalid, if_neg hecho, Bool.not_true, Bool.false_eq_true, if_false]
  rw [bind_apply_ok hfrom]
  simp only [gtphubRoute, checkRestartCounter_short, pure_bind_apply, get_bind_apply,
    mapRestartCounter_short]
  rw [bind_apply_ok hun]
  obtain ⟨p, final, fromSeq⟩ := r
  simp only at hfinal hfromSeq hp ⊢
  by_cases heq : be16 rx.buf 8 = seq
  · rw [if_pos heq] at hfinal ⊢
    rw [hfinal] at hfromSeq ⊢
    rw [hfromSeq (by simp)]
  · rw [if_neg heq] at hfinal ⊢
    rw [hfinal]
    simp only [resolveGgsn_nil hp.ie]
    split
    · rw [pure_bind_apply]
      rfl
    · rfl

/-- A short message that has a destination and is dropped nevertheless, though it is not one of
those that always are: a response for a tunnel that nobody asked to delete, or a request that leaves
a tunnel behind. -/
theorem deliver_drop {h h' : Hub} {p : GtpPacketDesc} {fromPort toPort : PeerPort}
    {fromSeq : Option PeerPort} {choice : ℕ} (hp : ShortUnmapped rx h p) (hsw : ¬ rx.Swallowed)
    (hr : gtphubDeliver lib choice ⟨p, fromPort, toPort, fromSeq⟩ h = .ok .drop h') :
    rx.type = gtpDeletePdpRsp ∧ rx.tei ≠ 0 ∨ ∃ t ∉ h.tunnels, t ∈ h'.tunnels := by
  obtain ⟨o, h₁, hctrl, ⟨rfl, -, rfl⟩ | ⟨_, _, -, heq, -⟩⟩ := deliver_ok hr
  · have htype : p.type = rx.type := hp.type
    have hside : p.side = rx.side := hp.side
    have hrc : p.rc ≠ .pduC := by
      rw [hp.rc]
      exact shortPacket_rc
    have htei (t : ℕ) (htun : p.tun = some t) : rx.tei ≠ 0 := by
      intro hzero
      rw [hp.none hzero] at htun
      simp at htun
    rw [gtphubHandleCtrl] at hctrl
    split at hctrl
    · next hplane =>
      have hplane : rx.plane = .ctrl := hp.plane.symm.trans hplane
      have hsw := fun hmsg ↦ hsw ⟨hplane, hmsg⟩
      simp only [gtphubHandlePdpCtx, htype] at hctrl
      split at hctrl
      · next hcreate =>
        by_cases hreq : rx.type = gtpCreatePdpReq
        · rcases createReq_ok (htype.trans hreq) hctrl with
            ⟨hnot, -⟩ | ⟨-, -, t, h₂, ht, hv, hplanes⟩
          · rw [hside] at hnot
            exfalso
            apply hsw
            refine .inr (.inl ⟨hreq, ?_⟩)
            cases hs : rx.side with
            | ggsn => exact .inr rfl
            | sgsn =>
              obtain ⟨t, htun⟩ := Option.ne_none_iff_exists'.mp fun hnone ↦ hnot ⟨hs, hnone⟩
              exact .inl (htei t htun)
          · have hstay :
                gtphubCreatePlanes lib { p with tun := some t } fromPort t h₂ = .ok none h₂ :=
              createPlanes_of_rc (p := { p with tun := some t }) hrc t
            obtain ⟨-, rfl⟩ := Result.ok.inj (hplanes.symm.trans hstay)
            refine .inr ⟨t, ht, ?_⟩
            rw [tunnels_of_view hv]
            exact List.mem_cons_self
        · have hrsp := hcreate.resolve_left hreq
          rw [gtphubHandleCreatePdpCtx, htype, if_neg hreq, hside] at hctrl
          exfalso
          apply hsw
          refine .inr (.inr (.inl ⟨hrsp, ?_⟩))
          cases hs : rx.side with
          | sgsn => exact .inr rfl
          | ggsn =>
            rw [hs] at hctrl
            cases htun : p.tun with
            | none =>
              rw [htun] at hctrl
              exact (throw_eq_ok.mp hctrl).elim
            | some t => exact .inl (htei t htun)
      · split at hctrl
        · next hreq => exact (hsw (.inl hreq)).elim
        · split at hctrl
          · next hrsp =>
            refine .inl ⟨hrsp, fun hzero ↦ ?_⟩
            exact hsw (.inr (.inr (.inr ⟨hrsp, hzero⟩)))
          · simp [pure_eq_ok] at hctrl
    · simp [pure_eq_ok] at hctrl
  · simp at heq

/-- A Delete Response with a tunnel that nobody asked to delete does not fault. -/
theorem deliver_deleteRsp (lib : Lib) (fromPort toPort q : PeerPort) (choice : ℕ) {h : Hub}
    {p : GtpPacketDesc} {t : ℕ} (htun : p.tun = some t) (htype : p.type = gtpDeletePdpRsp)
    (hpending : h.pendingDeletes = []) :
    ∃ v, gtphubDeliver lib choice ⟨p, fromPort, toPort, some q⟩ h = .ok v h := by
  cases hplane : p.plane with
  | ctrl =>
    have hctrl : gtphubHandleCtrl lib choice ⟨p, fromPort, toPort, some q⟩ h = .ok none h := by
      rw [gtphubHandleCtrl, if_pos hplane, gtphubHandlePdpCtx]
      simp only [htype]
      rw [if_neg (by decide), if_neg (by decide), if_pos trivial, gtphubHandleDeleteRsp, htun]
      simp only [get_bind_apply, hpending, List.find?_nil]
      rfl
    refine ⟨.drop, ?_⟩
    rw [gtphubDeliver, bind_apply_ok hctrl]
    rfl
  | user =>
    have hctrl : gtphubHandleCtrl lib choice ⟨p, fromPort, toPort, some q⟩ h = .ok (some p) h := by
      rw [gtphubHandleCtrl, if_neg (by simp [hplane])]
      rfl
    refine ⟨.forward toPort p, ?_⟩
    rw [gtphubDeliver, bind_apply_ok hctrl]
    simp only
    rw [if_neg (by simp [htun]), gtphubOutSeq]
    simp only [pure_bind_apply, htun, hplane]
    rfl

theorem output_eq_drop {v : Verdict} (hv : v.output rx = Verdict.output rx .drop) : v = .drop := by
  cases v with
  | drop => rfl
  | done | reply _ _ | forward _ _ => simp [Verdict.output] at hv

theorem output_eq_done {v : Verdict} (hv : v.output rx = Verdict.output rx .done) : v = .done := by
  cases v with
  | done => rfl
  | drop | reply _ _ | forward _ _ => simp [Verdict.output] at hv

/-- A packet without a destination that belongs to a tunnel is not dropped if it is a response. -/
theorem noDestination_ne_drop {h h' : Hub} {p : GtpPacketDesc} {t : ℕ} (htun : p.tun = some t)
    (htype : p.type = gtpDeletePdpRsp) : gtphubNoDestination p h ≠ .ok .drop h' := by
  intro hno
  rw [gtphubNoDestination, htun] at hno
  simp only [if_pos htype, modify_bind_apply] at hno
  obtain ⟨_, h₁, -, hno⟩ := bind_eq_ok.mp hno
  simp [pure_eq_ok] at hno

/-- Behind a short datagram there may be another sequence number. -/
theorem exists_other_seq (hbuf : gtp1HeaderSizeLong ≤ rx.buf.length) (hs : rx.Short) :
    ∃ buf : Bytes, buf.length = rx.buf.length ∧
      buf.take rx.received = rx.buf.take rx.received ∧ be16 buf 8 ≠ be16 rx.buf 8 := by
  have hreceived : rx.received = 8 := hs.1
  unfold gtp1HeaderSizeLong at hbuf
  refine ⟨rx.buf.set 9 (octet rx.buf 9 + 1), List.length_set, ?_, ?_⟩
  · rw [hreceived, List.take_set_of_le (by omega)]
  · -- the second octet of the number is one more, and the first is kept
    have hkept : octet (rx.buf.set 9 (octet rx.buf 9 + 1)) 8 = octet rx.buf 8 := by
      rw [octet_set, if_neg (by omega)]
    have hmore : octet (rx.buf.set 9 (octet rx.buf 9 + 1)) (8 + 1) = octet rx.buf 9 + 1 := by
      rw [octet_set, if_pos ⟨rfl, by omega⟩]
    have hne : (octet rx.buf 9 + 1).toNat ≠ (octet rx.buf (8 + 1)).toNat := by
      rw [UInt8.toNat_add]
      change ((octet rx.buf 9).toNat + 1) % 2 ^ 8 ≠ (octet rx.buf 9).toNat
      have hlt : (octet rx.buf 9).toNat < 2 ^ 8 := UInt8.toNat_lt _
      omega
    rw [be16, be16, hmore, hkept]
    omega

/-- **A short datagram that does not decide alone.** In this hub the verdict, or what is left in the
hub, depends on the octet behind the one where the number would begin. -/
theorem not_decidedAlone (hbuf : gtp1HeaderSizeLong ≤ rx.buf.length) (hs : rx.Short)
    (hecho : rx.type ≠ gtpEchoReq) (hsw : ¬ rx.Swallowed) :
    ¬ DecidedAlone lib (exposingHub rx (be16 rx.buf 8)) rx := by
  intro hall
  obtain ⟨buf, hlength, htake, hother⟩ := exists_other_seq hbuf hs
  have hseq : be16 (rx.inBuf buf).buf 8 ≠ be16 rx.buf 8 := hother
  obtain ⟨hs', htype, htei⟩ := hs.inBuf htake
  have heq := hall buf hlength htake
  -- With the number that was given out the datagram has a destination.
  obtain ⟨p, h₁, hview, hp, hloc⟩ :=
    exposingHub_locate lib (be16 rx.buf 8) hs hecho
  rw [if_pos rfl] at hloc
  have hdel : gtphubHandleBuf lib rx (exposingHub rx (be16 rx.buf 8)) =
      gtphubDeliver lib rx.choice ⟨p, rx.sender, rx.asker, some rx.asker⟩ h₁ := by
    rw [gtphubHandleBuf, bind_apply_ok hloc]
  -- With another one it has none.
  obtain ⟨p', h₂, hview', hp', hloc'⟩ :=
    exposingHub_locate lib (be16 rx.buf 8) hs' (htype ▸ hecho)
  rw [if_neg hseq, exposingHub_inBuf htei] at hloc'
  rw [exposingHub_inBuf htei] at hview'
  have htunnels : h₁.tunnels = h₂.tunnels := by
    rw [tunnels_of_view hview, tunnels_of_view hview']
  have hrsp (hmsg : rx.type = gtpDeletePdpRsp ∧ rx.tei ≠ 0) :
      ∃ t, p'.tun = some t ∧ p'.type = gtpDeletePdpRsp := by
    obtain ⟨t, htun, -⟩ := hp'.some (by rw [htei]; exact hmsg.2)
    exact ⟨t, htun, hp'.type.trans (htype.trans hmsg.1)⟩
  have hlast : gtphubHandleBuf lib (rx.inBuf buf) (exposingHub rx (be16 rx.buf 8)) =
      gtphubNoDestination p' h₂ := by
    rw [gtphubHandleBuf]
    cases hno : gtphubNoDestination p' h₂ with
    | ok v h₃ => exact bind_apply_ok (hloc'.trans (map_eq_ok.mpr ⟨v, hno, rfl⟩))
    | error e h₃ =>
      apply bind_apply_error
      rw [hloc']
      simp only [Functor.map, EStateM.map, hno]
  simp only [Functor.map, EStateM.map] at heq
  rw [hlast, hdel] at heq
  cases hno : gtphubNoDestination p' h₂ with
  | ok v h₃ =>
    rw [hno] at heq
    cases hend : gtphubDeliver lib rx.choice ⟨p, rx.sender, rx.asker, some rx.asker⟩ h₁ with
    | ok a h₄ =>
      rw [hend] at heq
      obtain ⟨hout, rfl⟩ := Result.ok.inj heq
      rcases noDestination_verdict hno with rfl | rfl
      · rw [output_eq_drop hout.symm] at hend
        rcases deliver_drop hp hsw hend with hmsg | ⟨t, ht, ht'⟩
        · obtain ⟨t, htun, htype⟩ := hrsp hmsg
          exact noDestination_ne_drop htun htype hno
        · rcases noDestination_ok hno with hv | ⟨hdone, -⟩
          · rw [tunnels_of_view hv, ← htunnels] at ht'
            exact ht ht'
          · simp at hdone
      · rw [output_eq_done hout.symm] at hend
        obtain ⟨_, _, -, ⟨-, heq, -⟩ | ⟨_, _, -, heq, -⟩⟩ := deliver_ok hend
        · simp at heq
        · simp at heq
    | error e h₄ =>
      rw [hend] at heq
      simp at heq
  | error e h₃ =>
    by_cases hcond : p'.type = gtpDeletePdpRsp → p'.tun = none
    · rw [noDestination_drop hcond] at hno
      simp at hno
    · -- Only the end of a tunnel can fault, and then the other run did not.
      rw [Classical.not_imp] at hcond
      have hmsg : rx.type = gtpDeletePdpRsp := htype.symm.trans (hp'.type.symm.trans hcond.1)
      have hnonzero : rx.tei ≠ 0 := fun hzero ↦ hcond.2 (hp'.none (htei.trans hzero))
      obtain ⟨t, htun, -⟩ := hp.some hnonzero
      have hpending : h₁.pendingDeletes = [] :=
        (Hub.eq_of_view Hub.pendingDeletes (fun _ ↦ rfl) hview).trans rfl
      obtain ⟨v, hend⟩ := deliver_deleteRsp lib rx.sender rx.asker rx.asker rx.choice htun
        (hp.type.trans hmsg) hpending
      rw [hno, hend] at heq
      simp at heq

/-- The GGSN sends an Update Request with a short header for the tunnel of the second SGSN. -/
def exampleShort (stale : Bytes) : Rx :=
  { exampleRx .ggsn .ctrl 9 ([0x30, UInt8.ofNat gtpUpdatePdpReq, 0, 0, 0, 0, 0, 2] ++ stale) 0 with
    received := 8 }

end Exposed

end OsmoSgsn.Gtphub
