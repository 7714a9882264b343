import OsmoSgsn.Gtphub.Delivery

/-!
# User data

On the user plane the hub is to forward what it receives, with another TEI in the header. The
sequence number is a field of the long header, which a packet has if one of the flags E, S and PN
is set. The hub does not look at the flags: it replaces the octets where the long header has the
number, and in a packet with a short header these are user data. They come through if the header
says that they are a number, if they are not part of the datagram, or if the tables of the hub
happen to give the same two octets.
-/

namespace OsmoSgsn.Gtphub

open EStateM

/-! ## Octets that are written -/

section Octets

variable {data : Bytes} {i j v : ℕ}

theorem octet_set (data : Bytes) (i j : ℕ) (b : UInt8) :
    octet (data.set i b) j = if i = j ∧ j < data.length then b else octet data j := by
  simp only [octet, List.getD_eq_getElem?_getD, List.getElem?_set]
  split_ifs with heq hlt hboth hnot <;> simp_all

@[simp] theorem length_put16 (data : Bytes) (i v : ℕ) : (put16 data i v).length = data.length := by
  simp [put16]

@[simp] theorem length_put32 (data : Bytes) (i v : ℕ) : (put32 data i v).length = data.length := by
  simp [put32]

theorem octet_put16_of_ne (hj : j < i ∨ i + 2 ≤ j) : octet (put16 data i v) j = octet data j := by
  rw [put16, octet_set, octet_set, if_neg (by omega), if_neg (by omega)]

theorem octet_put32_of_ne (hj : j < i ∨ i + 4 ≤ j) : octet (put32 data i v) j = octet data j := by
  rw [put32, octet_put16_of_ne (by omega), octet_put16_of_ne (by omega)]

/-- Writing looks at no octet. -/
theorem octet_put16_congr {data' : Bytes} (hlen : data.length = data'.length)
    (hj : octet data j = octet data' j) : octet (put16 data i v) j = octet (put16 data' i v) j := by
  simp only [put16, octet_set, List.length_set, hlen, hj]

/-- Two octets stay as they are if the number is written that they hold. -/
theorem octet_put16_eq_iff (hi : i + 1 < data.length) :
    (octet (put16 data i v) i = octet data i ∧
      octet (put16 data i v) (i + 1) = octet data (i + 1)) ↔
      v % 2 ^ 16 = be16 data i := by
  have hfst : octet (put16 data i v) i = UInt8.ofNat (v / 2 ^ 8) := by
    rw [put16, octet_set, octet_set, if_neg (by omega), if_pos ⟨rfl, by omega⟩]
  have hsnd : octet (put16 data i v) (i + 1) = UInt8.ofNat v := by
    rw [put16, octet_set, if_pos ⟨rfl, by simpa using hi⟩]
  have hlt := (octet data i).toNat_lt
  have hlt' := (octet data (i + 1)).toNat_lt
  rw [hfst, hsnd, ← UInt8.toNat_inj, ← UInt8.toNat_inj, UInt8.toNat_ofNat', UInt8.toNat_ofNat',
    be16]
  omega

end Octets

/-! ## The header -/

/-- What passes the checks for version 1 is read as if the header were long, and has the octets of a
short one. -/
theorem validateGtp1Header_valid {p : GtpPacketDesc}
    (hvalid : (validateGtp1Header p).rc.valid = true) :
    (validateGtp1Header p).data = p.data ∧ (validateGtp1Header p).dataLen = p.dataLen ∧
      (validateGtp1Header p).seq = be16 p.data 8 ∧
      (validateGtp1Header p).headerTeiRx = be32 p.data 4 ∧
      (p.dataLen = gtp1HeaderSizeShort ∨ gtp1HeaderSizeLong ≤ p.dataLen) := by
  simp only [validateGtp1Header] at hvalid ⊢
  split at hvalid
  · simp [GtpRc.valid] at hvalid
  · next hsize =>
    rw [if_neg hsize]
    refine ⟨?_, ?_, ?_, ?_, by omega⟩ <;> split_ifs <;> rfl

/-- A packet of version 1 went through the checks for version 1. -/
theorem validateGtpHeader_one {p : GtpPacketDesc} (hvalid : (validateGtpHeader p).rc.valid = true)
    (hversion : (validateGtpHeader p).version = 1) :
    validateGtpHeader p =
      validateGtp1Header { p with version := (octet p.data 0).toNat / 2 ^ 5 } := by
  unfold validateGtpHeader at hvalid hversion ⊢
  simp only at hvalid hversion ⊢
  split at hvalid
  · simp [GtpRc.valid] at hvalid
  · next hlen =>
    rw [if_neg hlen] at hversion ⊢
    split at hvalid
    · next hzero =>
      rw [if_pos hzero, validateGtp0Header] at hversion
      simp only at hversion
      split_ifs at hversion <;> exact absurd (hzero.symm.trans hversion) (by decide)
    · next hzero =>
      rw [if_neg hzero]
      split at hvalid
      · next hone => rw [if_pos hone]
      · simp [GtpRc.valid] at hvalid

/-- Decoding checks the header, and beyond that it gives the elements and a code. -/
theorem gtpDecode_header (lib : Lib) (buf : Bytes) (n : ℕ) (s : Side) (plane : Plane) (now : ℕ) :
    ∃ q, q = validateGtpHeader
        { data := buf, dataLen := n, plane := plane, side := s, timestamp := now } ∧
      gtpDecode lib buf n s plane now =
        { q with
          rc := (gtpDecode lib buf n s plane now).rc, ie := (gtpDecode lib buf n s plane now).ie } ∧
      ((gtpDecode lib buf n s plane now).rc.valid = true → q.rc.valid = true) := by
  refine ⟨_, rfl, ?_⟩
  unfold gtpDecode
  simp only
  split
  · exact ⟨rfl, id⟩
  · next hok =>
    refine ⟨?_, fun _ ↦ by simpa using hok⟩
    split
    · rfl
    · split
      · rfl
      · split <;> rfl

/-- What the hub reads from a packet of version 1. -/
theorem gtpDecode_one {lib : Lib} {buf : Bytes} {n : ℕ} {s : Side} {plane : Plane} {now : ℕ}
    (hvalid : (gtpDecode lib buf n s plane now).rc.valid = true)
    (hversion : (gtpDecode lib buf n s plane now).version = 1) :
    (gtpDecode lib buf n s plane now).data = buf ∧ (gtpDecode lib buf n s plane now).dataLen = n ∧
      (gtpDecode lib buf n s plane now).seq = be16 buf 8 ∧
      (gtpDecode lib buf n s plane now).headerTeiRx = be32 buf 4 ∧
      (n = gtp1HeaderSizeShort ∨ gtp1HeaderSizeLong ≤ n) := by
  obtain ⟨q, hq, heq, hok⟩ := gtpDecode_header lib buf n s plane now
  have hok := hok hvalid
  rw [heq] at hversion ⊢
  simp only at hversion ⊢
  rw [hq] at hok hversion ⊢
  have hone := validateGtpHeader_one hok hversion
  rw [hone] at hok ⊢
  exact validateGtp1Header_valid hok

/-- Elements are not read on the user plane, and the code says so. -/
theorem gtpDecode_rc_user {lib : Lib} {buf : Bytes} {n : ℕ} {s : Side} {now : ℕ}
    (hvalid : (gtpDecode lib buf n s .user now).rc.valid = true) :
    (gtpDecode lib buf n s .user now).rc = .pduU := by
  unfold gtpDecode at hvalid ⊢
  simp only at hvalid ⊢
  split at hvalid
  · next hnot => simp [hvalid] at hnot
  · next hok => rw [if_neg hok, if_pos trivial]

/-! ## The tables -/

/-- The port of an address, which is made if there is none. -/
def Hub.portOf (lib : Lib) (h : Hub) (a : PeerAddr) (port : ℕ) : PeerPort :=
  (h.ports.find? fun pp ↦ pp.side = a.side ∧ pp.plane = a.plane ∧ pp.peer = a.peer ∧
    pp.addr = a.addr ∧ pp.port = port).getD
      ⟨a.side, a.plane, a.peer, a.addr, port, gsnAddrToSockaddr lib a.addr port⟩

/-- Who sends a packet of the user plane: the proxy, or a port of an address that is known. -/
def Hub.userSender (lib : Lib) (h : Hub) (s : Side) (fromAddr : Sockaddr) : Option PeerPort :=
  match h.proxy s .user with
  | some pp => if pp.sa = fromAddr then some pp else none
  | none => (h.gtphubAddrFind s .user fromAddr.addr).map (h.portOf lib · fromAddr.port)

/-- Who gets a packet of the user plane whose number is not mapped back: the proxy, or the other end
of its tunnel. -/
def Hub.userReceiver (lib : Lib) (h : Hub) (rx : Rx) (fromPort : PeerPort) : Option PeerPort :=
  (h.proxy rx.side.other .user).or
    (if be32 rx.buf 4 = 0 then none
      else (h.gtphubUnmapTei (gtpDecode lib rx.buf rx.received rx.side rx.plane rx.now)
        fromPort).bind fun t ↦ ((h.tun t).endpoint rx.side.other .user).peer)

/-- The number that stands for a number of a port at a peer, or the next one of the peer's pool. -/
def Hub.seqAt (h : Hub) (peer : ℕ) (origin : PeerPort) (orig : ℕ) : ℕ :=
  match h.nrMapGet peer origin orig with
  | some m => m.repl
  | none => (nrPoolNext (h.seqPool peer)).lastNr

/-- In the tables of the hub the number in the octets 9 and 10 of a user packet stands for itself:
at the sender, where it is mapped back, or else at the receiver. -/
def Hub.SeqStands (lib : Lib) (h : Hub) (rx : Rx) : Prop :=
  ∃ fromPort ∈ h.userSender lib rx.side rx.fromAddr,
    match h.nrMapGetInv fromPort.peer (be16 rx.buf 8) with
    | some m => m.orig % 2 ^ 16 = be16 rx.buf 8
    | none => ∃ toPort ∈ h.userReceiver lib rx fromPort,
      h.seqAt toPort.peer fromPort (be16 rx.buf 8) % 2 ^ 16 = be16 rx.buf 8

/-! ## On the way -/

section Way

variable {lib : Lib} {rx : Rx} {h h' : Hub} {p p' : GtpPacketDesc}

theorem addrHavePort_user {a : PeerAddr} {port : ℕ} {pp : PeerPort}
    (hr : gtphubAddrHavePort lib a port h = .ok pp h') :
    h'.seqPool = h.seqPool ∧ pp = h.portOf lib a port := by
  simp only [gtphubAddrHavePort, bind_eq_ok] at hr
  obtain ⟨o, h₁, hfind, hr⟩ := hr
  obtain ⟨rfl, -, ho⟩ := addrFindPort_ok hfind
  unfold Hub.portOf
  rw [← ho]
  cases o with
  | some q =>
    obtain ⟨rfl, rfl⟩ := pure_eq_ok.mp hr
    exact ⟨rfl, rfl⟩
  | none =>
    simp only [gtphubAddrAddPort, get_bind_apply, set_bind_apply, pure_eq_ok] at hr
    obtain ⟨rfl, rfl⟩ := hr
    exact ⟨rfl, rfl⟩

/-- The sender is looked up, and no peer is made. -/
theorem fromPort_user {s : Side} {plane : Plane} {sa : Sockaddr} {o : Option PeerPort}
    (hr : gtphubFromPort lib s plane sa h = .ok o h') (huser : plane = .user) :
    h'.seqPool = h.seqPool ∧ o = h.userSender lib s sa := by
  simp only [gtphubFromPort, get_bind_apply] at hr
  unfold Hub.userSender
  rw [← huser]
  cases hq : h.proxy s plane with
  | some q =>
    rw [hq] at hr
    obtain ⟨rfl, rfl⟩ := pure_eq_ok.mp hr
    exact ⟨rfl, rfl⟩
  | none =>
    rw [hq] at hr
    obtain ⟨o', h₁, ho', hend⟩ := bind_eq_ok.mp hr
    simp only [gtphubKnownAddrHavePort, get_bind_apply] at ho'
    cases ha : h.gtphubAddrFind s plane sa.addr with
    | some a =>
      rw [ha] at ho'
      obtain ⟨pp, h₂, hpp, ho'⟩ := bind_eq_ok.mp ho'
      obtain ⟨rfl, rfl⟩ := pure_eq_ok.mp ho'
      obtain ⟨rfl, rfl⟩ := pure_eq_ok.mp hend
      obtain ⟨hpool, rfl⟩ := addrHavePort_user hpp
      exact ⟨hpool, rfl⟩
    | none =>
      rw [ha] at ho'
      obtain ⟨rfl, rfl⟩ := pure_eq_ok.mp ho'
      simp only [huser, reduceCtorEq, and_false, if_false] at hend
      obtain ⟨rfl, rfl⟩ := pure_eq_ok.mp hend
      exact ⟨rfl, rfl⟩

theorem expiryAdd_seqPool {exq : Exq} {item : Item} {now : ℕ} {u : Unit}
    (hr : expiryAdd exq item now h = .ok u h') : h'.seqPool = h.seqPool := by
  simp only [expiryAdd, get_bind_apply] at hr
  cases hq : Expiring.add (h.exq exq) item (now + exq.seconds) with
  | some items =>
    rw [hq] at hr
    rw [set_eq_ok.mp hr]
    cases exq <;> rfl
  | none =>
    rw [hq] at hr
    exact (throw_eq_ok.mp hr).elim

/-- The octets of a packet after its number was looked up at the sender. -/
def Hub.unmapData (h : Hub) (fromPort : PeerPort) (data : Bytes) : Bytes :=
  match h.nrMapGetInv fromPort.peer (be16 data 8) with
  | some m => put16 data 8 m.orig
  | none => data

/-- What mapping back does to the octets. -/
theorem unmap_data {fromPort : PeerPort} {toProxy : Option PeerPort} {r : Unmapped}
    (hr : gtphubUnmap p fromPort toProxy h = .ok (some r) h') (hseq : p.seq = be16 p.data 8) :
    h'.seqPool = h.seqPool ∧ r.p.dataLen = p.dataLen ∧
      (r.p.data = h.unmapData fromPort p.data ∨
        ∃ tei, r.p.data = put32 (h.unmapData fromPort p.data) 4 tei) ∧
      (h.nrMapGetInv fromPort.peer p.seq = none → r.p.seq = p.seq) := by
  simp only [gtphubUnmap] at hr
  obtain ⟨⟨p₁, fromSeq⟩, h₁, hun, hr⟩ := bind_eq_ok.mp hr
  obtain ⟨o, h₂, htei, hr⟩ := bind_eq_ok.mp hr
  have hp₁ : h₁ = h ∧ p₁.dataLen = p.dataLen ∧ p₁.data = h.unmapData fromPort p.data ∧
      (h.nrMapGetInv fromPort.peer p.seq = none → p₁.seq = p.seq) := by
    simp only [gtphubUnmapSeq] at hun
    split at hun
    · exact (throw_eq_ok.mp hun).elim
    · rw [get_bind_apply] at hun
      unfold Hub.unmapData
      rw [← hseq]
      cases hinv : h.nrMapGetInv fromPort.peer p.seq with
      | some m =>
        rw [hinv] at hun
        obtain ⟨heq, rfl⟩ := pure_eq_ok.mp hun
        cases heq
        exact ⟨rfl, rfl, rfl, by simp⟩
      | none =>
        rw [hinv] at hun
        obtain ⟨heq, rfl⟩ := pure_eq_ok.mp hun
        cases heq
        exact ⟨rfl, rfl, rfl, fun _ ↦ rfl⟩
  obtain ⟨rfl, hlen, hdata, hkept⟩ := hp₁
  cases o with
  | none => simp [pure_eq_ok] at hr
  | some x =>
    obtain ⟨p₂, fromTei⟩ := x
    have hp₂ : h₂.seqPool = h₁.seqPool ∧ p₂.dataLen = p₁.dataLen ∧ p₂.seq = p₁.seq ∧
        (p₂.data = p₁.data ∨ ∃ tei, p₂.data = put32 p₁.data 4 tei) := by
      simp only [gtphubUnmapHeaderTei] at htei
      split at htei
      · exact (throw_eq_ok.mp htei).elim
      · split at htei
        · obtain ⟨heq, rfl⟩ := pure_eq_ok.mp htei
          cases heq
          exact ⟨rfl, rfl, rfl, .inl rfl⟩
        · rw [get_bind_apply] at htei
          cases ht : h₁.gtphubUnmapTei p₁ fromPort with
          | none =>
            rw [ht] at htei
            simp [pure_eq_ok] at htei
          | some t =>
            rw [ht] at htei
            obtain ⟨_, h₃, hadd, htei⟩ := bind_eq_ok.mp htei
            obtain ⟨heq, rfl⟩ := pure_eq_ok.mp htei
            cases heq
            exact ⟨expiryAdd_seqPool hadd, rfl, rfl, .inr ⟨_, rfl⟩⟩
    obtain ⟨hpool, hlen₂, hseq₂, hdata₂⟩ := hp₂
    have hend : r.p = p₂ ∧ h' = h₂ := by
      simp only at hr
      cases hfinal : toProxy.or (fromSeq.or fromTei) with
      | none =>
        rw [hfinal] at hr
        obtain ⟨heq, rfl⟩ := pure_eq_ok.mp hr
        cases heq
        exact ⟨rfl, rfl⟩
      | some final =>
        rw [hfinal] at hr
        obtain ⟨heq, rfl⟩ := pure_eq_ok.mp hr
        cases heq
        exact ⟨rfl, rfl⟩
    obtain ⟨rfl, rfl⟩ := hend
    rw [hdata] at hdata₂
    exact ⟨hpool, hlen₂.trans hlen, hdata₂, fun hnone ↦ hseq₂.trans (hkept hnone)⟩

/-- Without elements there is nothing to resolve. -/
theorem resolveGgsn_nil (hie : p.ie = []) (clock : ℕ) :
    gtphubResolveGgsn lib p clock = pure (.ok none) := by
  unfold gtphubResolveGgsn
  rw [hie]
  rfl

/-- A packet of the user plane that was given a destination. -/
structure UserRouted (lib : Lib) (h : Hub) (rx : Rx) (r : Route) (h' : Hub) : Prop where
  view : h'.view = h.view
  seqPool : h'.seqPool = h.seqPool
  size : rx.received = gtp1HeaderSizeShort ∨ gtp1HeaderSizeLong ≤ rx.received
  plane : r.p.plane = .user
  dataLen : r.p.dataLen = rx.received
  data : r.p.data = h.unmapData r.fromPort rx.buf ∨
    ∃ tei, r.p.data = put32 (h.unmapData r.fromPort rx.buf) 4 tei
  fromSeq : r.fromSeq = h.seqOrigin r.fromPort (be16 rx.buf 8)
  /-- Without a number that is mapped back. -/
  unmapped : r.fromSeq = none →
    r.p.seq = be16 rx.buf 8 ∧ h.userReceiver lib rx r.fromPort = some r.toPort

/-- Where a user packet goes whose number is not mapped back is where `gtphub_unmap` finds that it
goes. -/
theorem userReceiver_eq {fromPort : PeerPort} {fromTei : Option PeerPort}
    (hp : p = gtpDecode lib rx.buf rx.received rx.side rx.plane rx.now) (huser : rx.plane = .user)
    (hteiRx : p.headerTeiRx = be32 rx.buf 4) (hsame : SamePacket p p')
    (htei : TeiUnmapped h p' fromPort fromTei) :
    h.userReceiver lib rx fromPort = (h.proxy rx.side.other rx.plane).or fromTei := by
  obtain ⟨hdside, hdplane, -⟩ := gtpDecode_fields lib rx.buf rx.received rx.side rx.plane rx.now
  rw [Hub.userReceiver, ← hp, huser]
  congr 1
  cases htei with
  | zero hzero htun =>
    rw [hsame.headerTeiRx, hteiRx] at hzero
    rw [if_pos hzero]
  | tunnel t hnonzero ht htun htei =>
    rw [hsame.headerTeiRx, hteiRx] at hnonzero
    rw [if_neg hnonzero, ← Hub.unmapTei_congr hsame, ht, hsame.side, hsame.plane, hp, hdside,
      hdplane, huser]
    rfl

theorem route_user {fromPort : PeerPort} {r : Route}
    (hp : p = gtpDecode lib rx.buf rx.received rx.side rx.plane rx.now)
    (hvalid : p.rc.valid = true) (huser : rx.plane = .user)
    (hr : gtphubRoute lib rx p fromPort h = .ok (.inr r) h') : UserRouted lib h rx r h' := by
  -- Without elements no restart is noticed, and no counter is replaced.
  have hie : p.ie = [] := by
    rw [hp, huser]
    exact gtpDecode_ie_user ..
  have hrc : p.rc = .pduU := by
    rw [hp, huser] at hvalid ⊢
    exact gtpDecode_rc_user hvalid
  have hcheck : gtphubCheckRestartCounter p fromPort = pure () := by
    unfold gtphubCheckRestartCounter
    rw [getRestartCount, hie]
    rfl
  have hmap : gtphubMapRestartCounter h.restartCounter p = p := by
    rw [gtphubMapRestartCounter, hrc]
    rfl
  simp only [gtphubRoute, hcheck, pure_bind_apply, get_bind_apply, hmap] at hr
  obtain ⟨o, h₁, hunmap, hr⟩ := bind_eq_ok.mp hr
  cases o with
  | none => simp [pure_eq_ok] at hr
  | some un =>
    obtain ⟨hview, hversion, hsame, fromTei, htei, hfinal, hfromSeq⟩ := unmap_ok hunmap
    have hone := gtpDecode_one (hp ▸ hvalid) (hp ▸ hversion)
    rw [← hp] at hone
    obtain ⟨hdata, hlen, hseq, hteiRx, hsize⟩ := hone
    obtain ⟨hpool, hlen', hdata', hkept⟩ := unmap_data hunmap (by rw [hseq, hdata])
    have hreceiver := userReceiver_eq hp huser hteiRx hsame htei
    rw [hseq] at hfinal hfromSeq hkept
    rw [hdata] at hdata'
    obtain ⟨p', final, fromSeq⟩ := un
    cases final with
    | some toPort =>
      obtain ⟨heq, rfl⟩ := pure_eq_ok.mp hr
      cases heq
      have hfromSeq := hfromSeq (by simp)
      simp only at hfromSeq hfinal
      refine ⟨hview, hpool, hsize, ?_, hlen'.trans hlen, hdata', hfromSeq,
        fun hnone ↦ ⟨hkept ?_, ?_⟩⟩
      · rw [hsame.plane, hp, (gtpDecode_fields ..).2.1, huser]
      · exact Option.map_eq_none_iff.mp (hfromSeq.symm.trans hnone)
      · rw [hreceiver, hfinal, hfromSeq.symm.trans hnone, Option.none_or]
    | none =>
      -- A packet that leads nowhere is not sent on.
      have hie' : p'.ie = [] := hsame.ie.trans hie
      simp only [resolveGgsn_nil hie'] at hr
      split at hr
      · rw [pure_bind_apply] at hr
        obtain ⟨_, _, -, hr⟩ := bind_eq_ok.mp hr
        simp [pure_eq_ok] at hr
      · obtain ⟨_, _, -, hr⟩ := bind_eq_ok.mp hr
        simp [pure_eq_ok] at hr

theorem UserRouted.of_view {h₁ : Hub} {r : Route} (hview : h₁.view = h.view)
    (hpool : h₁.seqPool = h.seqPool) (hr : UserRouted lib h₁ rx r h') :
    UserRouted lib h rx r h' where
  view := hr.view.trans hview
  seqPool := hr.seqPool.trans hpool
  size := hr.size
  plane := hr.plane
  dataLen := hr.dataLen
  data := by
    have hun : h.unmapData r.fromPort rx.buf = h₁.unmapData r.fromPort rx.buf :=
      Hub.eq_of_view (fun h ↦ h.unmapData r.fromPort rx.buf) (fun _ ↦ rfl) hview.symm
    rw [hun]
    exact hr.data
  fromSeq := hr.fromSeq.trans (seqOrigin_of_view hview ..)
  unmapped hnone := by
    have hreceiver : h.userReceiver lib rx r.fromPort = h₁.userReceiver lib rx r.fromPort :=
      Hub.eq_of_view (fun h ↦ h.userReceiver lib rx r.fromPort) (fun _ ↦ rfl) hview.symm
    rw [hreceiver]
    exact hr.unmapped hnone

theorem locate_user {r : Route} (hr : gtphubLocate lib rx h = .ok (.inr r) h')
    (huser : rx.plane = .user) :
    UserRouted lib h rx r h' ∧ h.userSender lib rx.side rx.fromAddr = some r.fromPort := by
  simp only [gtphubLocate] at hr
  split at hr
  · simp [pure_eq_ok] at hr
  · next hvalid =>
    split at hr
    · simp [get_bind_apply, pure_eq_ok] at hr
    · obtain ⟨o, h₁, hfrom, hr⟩ := bind_eq_ok.mp hr
      obtain ⟨hpool, rfl⟩ := fromPort_user hfrom huser
      cases hsender : h.userSender lib rx.side rx.fromAddr with
      | none =>
        rw [hsender] at hr
        simp [pure_eq_ok] at hr
      | some fromPort =>
        rw [hsender] at hr
        have hrouted := route_user rfl (by simpa using hvalid) huser hr
        rw [(route_inr hr).2]
        exact ⟨hrouted.of_view (fromPort_ok hfrom).1 hpool, rfl⟩

theorem seqAt_of_view {h₁ : Hub} (hview : h₁.view = h.view) (hpool : h₁.seqPool = h.seqPool)
    (peer : ℕ) (origin : PeerPort) (orig : ℕ) :
    h₁.seqAt peer origin orig = h.seqAt peer origin orig := by
  have hget : h₁.nrMapGet peer origin orig = h.nrMapGet peer origin orig :=
    Hub.eq_of_view (fun h ↦ h.nrMapGet peer origin orig) (fun _ ↦ rfl) hview
  rw [Hub.seqAt, Hub.seqAt, hget, hpool]

/-- The number that `gtphub_map_seq` gives a packet. -/
theorem mapSeq_seqAt {fromPort toPort : PeerPort}
    (hr : gtphubMapSeq p fromPort toPort h = .ok p' h') :
    p' = p.setSeq (h.seqAt toPort.peer fromPort p.seq) := by
  simp only [gtphubMapSeq] at hr
  obtain ⟨repl, h₁, hmap, hr⟩ := bind_eq_ok.mp hr
  have hrepl : repl = h.seqAt toPort.peer fromPort p.seq := by
    simp only [gtphubMappingHave, get_bind_apply] at hmap
    unfold Hub.seqAt
    cases hget : h.nrMapGet toPort.peer fromPort p.seq with
    | some m =>
      rw [hget] at hmap
      obtain ⟨_, h₂, -, hmap⟩ := bind_eq_ok.mp hmap
      exact (pure_eq_ok.mp hmap).1
    | none =>
      rw [hget] at hmap
      obtain ⟨nr, h₂, hnr, hmap⟩ := bind_eq_ok.mp hmap
      rw [modify_bind_apply] at hmap
      obtain ⟨_, h₃, -, hmap⟩ := bind_eq_ok.mp hmap
      obtain ⟨_, h₄, -, hmap⟩ := bind_eq_ok.mp hmap
      rw [(pure_eq_ok.mp hmap).1]
      simp only [seqPoolNext, get_bind_apply, set_bind_apply, pure_eq_ok] at hnr
      exact hnr.1
  split at hr
  · exact (throw_eq_ok.mp hr).elim
  · rw [(pure_eq_ok.mp hr).1, hrepl]

/-- The octets of a user packet that is forwarded: a number is written at 9 and 10, whatever the
header says, and the TEI may be replaced. The tables say whether the number is the old one. -/
theorem handleBuf_user {toPort : PeerPort}
    (hr : gtphubHandleBuf lib rx h = .ok (.forward toPort p') h') (huser : rx.plane = .user) :
    p'.dataLen = rx.received ∧ p'.data.length = rx.buf.length ∧
      (rx.received = gtp1HeaderSizeShort ∨ gtp1HeaderSizeLong ≤ rx.received) ∧
      ∃ nr, (∀ i, i < 4 ∨ 8 ≤ i → octet p'.data i = octet (put16 rx.buf 8 nr) i) ∧
        (h.SeqStands lib rx ↔ nr % 2 ^ 16 = be16 rx.buf 8) := by
  obtain ⟨r, h₁, hloc, hdel⟩ := handleBuf_forward hr
  obtain ⟨hrouted, hsender⟩ := locate_user hloc huser
  simp only [gtphubDeliver] at hdel
  obtain ⟨o, h₂, hctrl, hsend⟩ := bind_eq_ok.mp hdel
  rw [gtphubHandleCtrl, hrouted.plane, if_neg (by decide)] at hctrl
  obtain ⟨rfl, rfl⟩ := pure_eq_ok.mp hctrl
  simp only at hsend
  split at hsend
  · exact (throw_eq_ok.mp hsend).elim
  · obtain ⟨p₂, h₃, hout, hlog⟩ := bind_eq_ok.mp hsend
    obtain ⟨_, h₄, -, hend⟩ := bind_eq_ok.mp hlog
    obtain ⟨heq, -⟩ := pure_eq_ok.mp hend
    cases heq
    have hfrom := hrouted.fromSeq
    have hstands : h.SeqStands lib rx ↔
        match h.nrMapGetInv r.fromPort.peer (be16 rx.buf 8) with
        | some m => m.orig % 2 ^ 16 = be16 rx.buf 8
        | none => ∃ toPort ∈ h.userReceiver lib rx r.fromPort,
          h.seqAt toPort.peer r.fromPort (be16 rx.buf 8) % 2 ^ 16 = be16 rx.buf 8 := by
      simp [Hub.SeqStands, hsender]
    have hdata := hrouted.data
    unfold Hub.unmapData at hdata
    unfold Hub.seqOrigin at hfrom
    unfold gtphubOutSeq at hout
    cases hinv : h.nrMapGetInv r.fromPort.peer (be16 rx.buf 8) with
    | some m =>
      rw [hinv] at hdata hfrom hstands
      rw [hfrom] at hout
      obtain ⟨rfl, rfl⟩ := pure_eq_ok.mp hout
      refine ⟨hrouted.dataLen, ?_, hrouted.size, m.orig, fun i hi ↦ ?_, hstands⟩
      · rcases hdata with heq | ⟨tei, heq⟩ <;> simp [heq]
      · rcases hdata with heq | ⟨tei, heq⟩ <;> rw [heq]
        exact octet_put32_of_ne (by omega)
    | none =>
      rw [hinv] at hdata hfrom hstands
      rw [hfrom] at hout
      obtain ⟨hseq, hreceiver⟩ := hrouted.unmapped hfrom
      have hp₂ := mapSeq_seqAt hout
      rw [hseq, seqAt_of_view hrouted.view hrouted.seqPool] at hp₂
      generalize hnr : h.seqAt r.toPort.peer r.fromPort (be16 rx.buf 8) = nr at hp₂
      rw [hp₂]
      refine ⟨hrouted.dataLen, ?_, hrouted.size, nr, fun i hi ↦ ?_, ?_⟩
      · rcases hdata with heq | ⟨tei, heq⟩ <;> simp [GtpPacketDesc.setSeq, heq]
      · -- The TEI was written first.
        apply octet_put16_congr
        · rcases hdata with heq | ⟨tei, heq⟩ <;> simp [heq]
        · rcases hdata with heq | ⟨tei, heq⟩ <;> rw [heq]
          exact octet_put32_of_ne (by omega)
      · rw [hstands]
        simp [hreceiver, hnr]

end Way

/-! ## The octets that go out -/

/-- One of the flags E, S and PN is set, so the header is long. -/
def Rx.Flagged (rx : Rx) : Prop := (octet rx.buf 0).toNat % 8 ≠ 0

/-- The octets of a packet that are written to the socket. -/
def GtpPacketDesc.sent (p : GtpPacketDesc) : Bytes := p.data.take p.dataLen

/-- What goes out is what came in, but for the TEI in the octets 5 to 8 and, if the header has one,
the number in the octets 9 and 10. -/
structure Untouched (rx : Rx) (sent : Bytes) : Prop where
  length : sent.length = rx.received
  octets : ∀ i < rx.received, octet sent i = octet rx.buf i ∨ 4 ≤ i ∧ i < 8 ∨
    rx.Flagged ∧ 8 ≤ i ∧ i < 10

instance (rx : Rx) : Decidable rx.Flagged := inferInstanceAs (Decidable (_ ≠ _))

section Frame

variable {lib : Lib} {rx : Rx} {h h' : Hub} {p' : GtpPacketDesc} {toPort : PeerPort}

theorem octet_take {data : Bytes} {n i : ℕ} (hi : i < n) :
    octet (data.take n) i = octet data i := by
  simp only [octet, List.getD_eq_getElem?_getD, List.getElem?_take, if_pos hi]

/-- **The frame of a user packet.** What is forwarded is untouched exactly if the header has a
sequence number, or the datagram ends before it, or the number stands for itself. -/
theorem handleBuf_untouched_iff (hr : gtphubHandleBuf lib rx h = .ok (.forward toPort p') h')
    (huser : rx.plane = .user) (hlen : rx.received ≤ rx.buf.length) :
    Untouched rx p'.sent ↔
      rx.Flagged ∨ rx.received = gtp1HeaderSizeShort ∨ h.SeqStands lib rx := by
  obtain ⟨hdataLen, hlength, hsize, nr, hoctets, hstands⟩ := handleBuf_user hr huser
  unfold gtp1HeaderSizeShort gtp1HeaderSizeLong at hsize
  have hsent (i : ℕ) (hi : i < rx.received) : octet p'.sent i = octet p'.data i :=
    octet_take (hdataLen.symm ▸ hi)
  have hkept (i : ℕ) (hi : i < 4 ∨ 10 ≤ i) : octet p'.data i = octet rx.buf i := by
    rw [hoctets i (by omega), octet_put16_of_ne (by omega)]
  rw [gtp1HeaderSizeShort, hstands]
  constructor
  · intro hun
    by_cases hflag : rx.Flagged
    · exact .inl hflag
    · refine .inr ((hsize.imp_right fun hlong ↦ ?_))
      -- The two octets came through, and what was written there is the number.
      have hoctet (i : ℕ) (hi : 8 ≤ i) (hi' : i < 10) :
          octet (put16 rx.buf 8 nr) i = octet rx.buf i := by
        rcases hun.octets i (by omega) with heq | htei | ⟨hflag', -⟩
        · rw [← hoctets i (by omega), ← hsent i (by omega), heq]
        · omega
        · exact (hflag hflag').elim
      apply (octet_put16_eq_iff (by omega)).mp
      exact ⟨hoctet 8 (by omega) (by omega), hoctet 9 (by omega) (by omega)⟩
  · intro hcond
    refine ⟨by simp [GtpPacketDesc.sent, hdataLen, hlength, hlen], fun i hi ↦ ?_⟩
    rw [hsent i hi]
    by_cases hseq : 8 ≤ i ∧ i < 10
    · rcases hcond with hflag | hshort | hnr
      · exact .inr (.inr ⟨hflag, hseq⟩)
      · omega
      · have hboth : octet (put16 rx.buf 8 nr) 8 = octet rx.buf 8 ∧
            octet (put16 rx.buf 8 nr) (8 + 1) = octet rx.buf (8 + 1) :=
          (octet_put16_eq_iff (by omega)).mpr hnr
        rw [hoctets i (by omega)]
        obtain rfl | rfl : i = 8 ∨ i = 9 := by omega
        · exact .inl hboth.1
        · exact .inl hboth.2
    · by_cases htei : 4 ≤ i ∧ i < 8
      · exact .inr (.inl htei)
      · exact .inl (hkept i (by omega))

/-- In every run, and for every packet of the user plane that it forwards. -/
theorem user_data_untouched_iff (lib : Lib) (s : System) (es : List HubEvent) (o : Handled)
    (ho : o ∈ (hubMachine lib).trace s es) (hev : o.event = .rx rx) (huser : rx.plane = .user)
    (hlen : rx.received ≤ rx.buf.length) (hverdict : o.verdict = .forward toPort p') :
    Untouched rx p'.sent ↔
      rx.Flagged ∨ rx.received = gtp1HeaderSizeShort ∨ o.before.SeqStands lib rx := by
  have hhandle : ∀ o ∈ (hubMachine lib).trace s es, o.event.handle lib o.before =
      .ok o.verdict o.after := by
    refine Machine.forall_mem_trace (fun _ _ ↦ True) (fun _ ↦ True) (fun _ _ _ _ ↦ trivial)
      (fun s e _ _ o ho ↦ ?_) trivial (Machine.meets_of_forall (fun _ _ ↦ trivial) s es)
    obtain ⟨-, hbefore, hevent, hok⟩ := mem_hubMachine_step ho
    rw [hbefore, hevent, hok]
  have hr := hhandle o ho
  rw [hev, hverdict] at hr
  exact handleBuf_untouched_iff hr huser hlen

/-- A tunnel is made and accepted. -/
def exampleUserRun : List HubEvent :=
  [exampleResolved, .rx (exampleCreateReq 1 0x11 0x22 7),
    .rx (exampleCreateRsp 1 0x6d31 0x33 0x44)]

/-- The SGSN sends user data through the tunnel, with some flags in the header. -/
def exampleUser (flags : UInt8) : Rx :=
  exampleRx .sgsn .user 2 [flags, 255, 0, 5, 0, 0, 0, 1, 0xaa, 0xbb, 0xcc, 0xdd, 0xee] 0

/-- They go out with a number of the hub, for any flags. -/
theorem exampleUser_forward {flags : UInt8} (hflags : flags = 0x30 ∨ flags = 0x32) :
    ∃ o ∈ (hubMachine exampleLib).trace ⟨gtphubInit exampleCfg, none⟩
        (exampleUserRun ++ [.rx (exampleUser flags)]), o.event = .rx (exampleUser flags) ∧
      ∃ toPort p', o.verdict = .forward toPort p' ∧
        p'.sent = [flags, 255, 0, 5, 0, 0, 0, 0x33, 0x6d, 0x31, 0xcc, 0xdd, 0xee] := by
  have hret : ((gtphubHandleBuf exampleLib (exampleUser flags)
      (exampleRun exampleUserRun).hub).returned.map fun x ↦ match x.1 with
        | .forward _ p => some p.sent
        | _ => none) =
      some (some [flags, 255, 0, 5, 0, 0, 0, 0x33, 0x6d, 0x31, 0xcc, 0xdd, 0xee]) := by
    rcases hflags with rfl | rfl <;> decide +kernel
  have hmem := fun v h' ↦ mem_trace_exampleRun exampleUserRun (.rx (exampleUser flags)) v h'
    (by decide +kernel)
  obtain ⟨⟨v, h'⟩, hret, hx⟩ := Option.map_eq_some_iff.mp hret
  refine ⟨_, hmem v h' (returned_eq_some.mp hret), rfl, ?_⟩
  cases v with
  | drop | done | reply _ _ => simp at hx
  | forward toPort p' => exact ⟨toPort, p', rfl, Option.some.inj hx⟩

/-- With the flag S the number is one of the header. -/
theorem flagged_user_data_untouched : ∃ o ∈ (hubMachine exampleLib).trace
    ⟨gtphubInit exampleCfg, none⟩ (exampleUserRun ++ [.rx (exampleUser 0x32)]),
      ∃ toPort p', o.verdict = .forward toPort p' ∧ Untouched (exampleUser 0x32) p'.sent := by
  obtain ⟨o, ho, hev, toPort, p', hverdict, -⟩ := exampleUser_forward (.inr rfl)
  refine ⟨o, ho, toPort, p', hverdict, ?_⟩
  apply (user_data_untouched_iff exampleLib _ _ o ho hev rfl (by decide) hverdict).mpr
  exact .inl (by decide)

/-- Without flags two octets of the user data are lost. -/
theorem unflagged_user_data_overwritten : ¬ ∀ (lib : Lib) (cfg : HubCfg) (h : Hub)
    (es : List HubEvent), gtphubStart lib cfg (gtphubInit cfg) = .ok () h →
      ∀ o ∈ (hubMachine lib).trace ⟨h, none⟩ es, ∀ rx toPort p', o.event = .rx rx →
        rx.plane = .user → rx.received ≤ rx.buf.length → o.verdict = .forward toPort p' →
          Untouched rx p'.sent := by
  intro hall
  obtain ⟨o, ho, hev, toPort, p', hverdict, hsent⟩ := exampleUser_forward (.inl rfl)
  have hun := hall exampleLib exampleCfg (gtphubInit exampleCfg) _ rfl o ho _ toPort p' hev rfl
    (by decide) hverdict
  rw [hsent] at hun
  have hlost := hun.octets 8 (by decide)
  revert hlost
  decide

end Frame

end OsmoSgsn.Gtphub
