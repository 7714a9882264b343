import OsmoSgsn.Basic

/-!
# Compression of TCP/IP headers

The compressor keeps the headers of the last packet of each connection and sends what has changed.
Its slots are in a ring in the order of their last use. A packet that is not one of an established
TCP connection goes as it is; the first packet of a connection, and one with changes that cannot be
expressed, goes with the number of its slot in place of the protocol; any other is compressed.

A packet is looked at where it lies: the TCP header is read before anything tells that the packet
goes that far, so what lies behind it takes part.
-/

namespace OsmoSgsn.Sndcp

/-! ## Headers -/

/-- A packet in memory, with the octets that lie behind it. -/
structure Packet where
  data : Bytes
  behind : ℕ → UInt8

/-- The octet at an offset. -/
def Packet.at (p : Packet) (i : ℕ) : UInt8 := p.data.getD i (p.behind (i - p.data.length))

/-- A number of octets from an offset. -/
def Packet.slice (p : Packet) (start len : ℕ) : Bytes :=
  (List.range len).map fun i ↦ p.at (start + i)

/-- Numbers in network order. -/
def be16 (h : Bytes) (i : ℕ) : ℕ := (octet h i).toNat * 256 + (octet h (i + 1)).toNat
def be32 (h : Bytes) (i : ℕ) : ℕ := be16 h i * 65536 + be16 h (i + 2)

/-- Overwrite octets from an offset. -/
def overwrite (h : Bytes) (i : ℕ) (bs : Bytes) : Bytes := h.take i ++ bs ++ h.drop (i + bs.length)

/-- Two octets of a number in network order. -/
def put16 (n : ℕ) : Bytes := [.ofNat (n / 256), .ofNat n]
def put32 (n : ℕ) : Bytes := put16 (n / 65536) ++ put16 n

/-- The fields of an IP header. -/
def ihl (ip : Bytes) : ℕ := (octet ip 0).toNat % 16
def ipVersion (ip : Bytes) : ℕ := (octet ip 0).toNat / 16
def ipTos (ip : Bytes) : UInt8 := octet ip 1
def ipTotLen (ip : Bytes) : ℕ := be16 ip 2
def ipId (ip : Bytes) : ℕ := be16 ip 4
def ipFragOff (ip : Bytes) : ℕ := be16 ip 6
def ipTtl (ip : Bytes) : UInt8 := octet ip 8
def ipProtocol (ip : Bytes) : UInt8 := octet ip 9
def ipSaddr (ip : Bytes) : ℕ := be32 ip 12
def ipDaddr (ip : Bytes) : ℕ := be32 ip 16

/-- The fields of a TCP header. -/
def tcpSource (th : Bytes) : ℕ := be16 th 0
def tcpDest (th : Bytes) : ℕ := be16 th 2
def tcpSeq (th : Bytes) : ℕ := be32 th 4
def tcpAckSeq (th : Bytes) : ℕ := be32 th 8
def tcpDoff (th : Bytes) : ℕ := (octet th 12).toNat / 16
def tcpFlag (th : Bytes) (bit : ℕ) : Bool := (octet th 13).toNat.testBit bit
def tcpWindow (th : Bytes) : ℕ := be16 th 14
def tcpCheck (th : Bytes) : Bytes := (th.drop 16).take 2
def tcpUrgPtr (th : Bytes) : ℕ := be16 th 18

def ipprotoTcp : UInt8 := 6

/-- The bits of the first octet of a compressed packet. -/
def newC : ℕ := 0x40
def newI : ℕ := 0x20
def newS : ℕ := 0x08
def newA : ℕ := 0x04
def newW : ℕ := 0x02
def newU : ℕ := 0x01
def specialI : ℕ := newS ||| newW ||| newU
def specialD : ℕ := newS ||| newA ||| newW ||| newU
def specialsMask : ℕ := newS ||| newA ||| newW ||| newU
def tcpPushBit : ℕ := 0x10

/-- The type of a packet, in the high bits of its first octet. -/
def slTypeUncompressedTcp : UInt8 := 0x70
def slTypeCompressedTcp : UInt8 := 0x80

/-! ## State -/

/-- A slot, `struct cstate`: the headers of the most recent packet of a connection. -/
structure CState where
  csThis : ℕ
  next : ℕ
  csIp : Bytes
  csTcp : Bytes
  csIpopt : Bytes
  csTcpopt : Bytes

/-- `struct slcompress`, without the numbers that are only logged. -/
structure SlCompress where
  tstate : ℕ → CState
  rstate : ℕ → CState
  tslotLimit : ℕ
  rslotLimit : ℕ
  xmitOldest : ℕ
  xmitCurrent : ℕ
  recvCurrent : ℕ
  /-- `SLF_TOSS`. -/
  toss : Bool

/-- A slot that was just allocated. -/
def CState.zero (csThis next : ℕ) : CState where
  csThis := csThis
  next := next
  csIp := List.replicate 20 0
  csTcp := List.replicate 20 0
  csIpopt := List.replicate 64 0
  csTcpopt := List.replicate 64 0

/-- `slhc_init`. -/
def slhcInit (rslots tslots : ℕ) : Option SlCompress :=
  if 255 < rslots ∨ 255 < tslots then none
  else some
    { tstate i := if 0 < i then .zero i (i - 1) else .zero 0 (tslots - 1)
      rstate _ := .zero 0 0
      tslotLimit := tslots - 1
      rslotLimit := rslots - 1
      xmitOldest := 0
      xmitCurrent := 255
      recvCurrent := 255
      toss := true }

/-- Change a slot of the transmitter. -/
def SlCompress.setT (comp : SlCompress) (i : ℕ) (f : CState → CState) : SlCompress :=
  { comp with tstate := Function.update comp.tstate i (f (comp.tstate i)) }

/-- Change a slot of the receiver. -/
def SlCompress.setR (comp : SlCompress) (i : ℕ) (f : CState → CState) : SlCompress :=
  { comp with rstate := Function.update comp.rstate i (f (comp.rstate i)) }

/-! ## The compressor -/

/-- `encode`: one octet for a small number, three for others. -/
def encode (n : ℤ) : Bytes :=
  let n := (n % 65536).toNat
  if 256 ≤ n ∨ n = 0 then 0 :: put16 n else [.ofNat n]

/-- What the search in the ring ends with: the slot of the connection or the last one, and the one
before it. -/
structure Search where
  found : Bool
  lcs : ℕ
  cs : ℕ

/-- The search for the slot of a connection, from the one that was used last to the oldest. It does
not end if that one is not on the way. -/
def search (comp : SlCompress) (ip th : Bytes) : ℕ → ℕ → ℕ → Option Search
  | 0, _, _ => none
  | fuel + 1, lcs, cs =>
    let slot := comp.tstate cs
    if ipSaddr ip = ipSaddr slot.csIp ∧ ipDaddr ip = ipDaddr slot.csIp ∧
        tcpSource th = tcpSource slot.csTcp ∧ tcpDest th = tcpDest slot.csTcp then
      some ⟨true, lcs, cs⟩
    else if cs = comp.xmitOldest then some ⟨false, lcs, cs⟩
    else search comp ip th fuel cs slot.next

/-- Move a slot to the front of the ring. -/
def moveToFront (comp : SlCompress) (lcs cs : ℕ) : SlCompress :=
  let ocs := comp.xmitOldest
  if lcs = ocs then comp
  else if cs = ocs then { comp with xmitOldest := (comp.tstate lcs).csThis }
  else
    let comp := comp.setT lcs fun s ↦ { s with next := (comp.tstate cs).next }
    let comp := comp.setT cs fun s ↦ { s with next := (comp.tstate ocs).next }
    comp.setT ocs fun s ↦ { s with next := cs }

/-- A header has changed in a way that cannot be expressed. -/
def unexpectedChange (slot : CState) (icp : Packet) (ip th : Bytes) : Bool :=
  ipVersion ip ≠ ipVersion slot.csIp ∨ ihl ip ≠ ihl slot.csIp ∨ ipTos ip ≠ ipTos slot.csIp ∨
  (ipFragOff ip).testBit 14 ≠ (ipFragOff slot.csIp).testBit 14 ∨ ipTtl ip ≠ ipTtl slot.csIp ∨
  tcpDoff th ≠ tcpDoff slot.csTcp ∨
  (5 < ihl ip ∧ icp.slice 20 ((ihl ip - 5) * 4) ≠ slot.csIpopt.take ((ihl ip - 5) * 4)) ∨
  (5 < tcpDoff th ∧
    icp.slice (ihl ip * 4 + 20) ((tcpDoff th - 5) * 4) ≠ slot.csTcpopt.take ((tcpDoff th - 5) * 4))

/-- The changes of the urgent pointer and the window. -/
def changesUW (slot : CState) (th : Bytes) : Option (ℕ × Bytes) :=
  let window := (tcpWindow th : ℤ) - tcpWindow slot.csTcp
  let w := if window ≠ 0 then (newW, encode window) else (0, [])
  if tcpFlag th 5 then some (newU ||| w.1, encode (tcpUrgPtr th) ++ w.2)
  else if tcpUrgPtr th ≠ tcpUrgPtr slot.csTcp then none
  else some w

/-- The changes of a header, as a mask and in numbers, where they can be expressed. -/
def changesOf (slot : CState) (hlen : ℕ) (ip th : Bytes) : Option (ℕ × Bytes) := do
  let (changes, newSeq) ← changesUW slot th
  let deltaA : ℕ := (tcpAckSeq th + 2 ^ 32 - tcpAckSeq slot.csTcp) % 2 ^ 32
  let deltaS : ℕ := (tcpSeq th + 2 ^ 32 - tcpSeq slot.csTcp) % 2 ^ 32
  if 0xffff < deltaA ∨ 0xffff < deltaS then none
  let changes := if deltaA ≠ 0 then changes ||| newA else changes
  let newSeq := if deltaA ≠ 0 then newSeq ++ encode deltaA else newSeq
  let changes := if deltaS ≠ 0 then changes ||| newS else changes
  let newSeq := if deltaS ≠ 0 then newSeq ++ encode deltaS else newSeq
  let dataLen := (ipTotLen slot.csIp : ℤ) - hlen
  -- what the changes say may be one of the special cases, or read as one
  let (changes, newSeq) ←
    if changes = 0 then
      if ipTotLen ip ≠ ipTotLen slot.csIp ∧ ipTotLen slot.csIp = hlen then some (changes, newSeq)
      else none
    else if changes = specialI ∨ changes = specialD then none
    else if changes = newS ||| newA ∧ deltaS = deltaA ∧ deltaS = dataLen then some (specialI, [])
    else if changes = newS ∧ deltaS = dataLen then some (specialD, [])
    else some (changes, newSeq)
  let deltaId := (ipId ip : ℤ) - ipId slot.csIp
  let newSeq := if deltaId ≠ 1 then newSeq ++ encode deltaId else newSeq
  let changes := if deltaId ≠ 1 then changes ||| newI else changes
  pure (if tcpFlag th 3 then changes ||| tcpPushBit else changes, newSeq)

/-- What `slhc_compress` leaves: its state, the length that it returns, the output buffer, and
whether it points its caller to that buffer. -/
structure Compressed where
  comp : SlCompress
  len : ℕ
  ocp : Bytes
  useCopy : Bool

/-- Send a packet with the number of its slot. -/
def sendUncompressed (comp : SlCompress) (cs : ℕ) (icp : Packet) (ip th : Bytes) (ocp : Bytes) :
    Compressed :=
  let slot := comp.tstate cs
  let comp := comp.setT cs fun s ↦ { s with
    csIp := ip
    csTcp := th
    csIpopt := if 5 < ihl ip then overwrite s.csIpopt 0 (icp.slice 20 ((ihl ip - 5) * 4))
      else s.csIpopt
    csTcpopt := if 5 < tcpDoff th then
        overwrite s.csTcpopt 0 (icp.slice (ihl ip * 4 + 20) ((tcpDoff th - 5) * 4))
      else s.csTcpopt }
  let out := icp.data.set 9 (.ofNat slot.csThis)
  { comp := { comp with xmitCurrent := slot.csThis }
    len := icp.data.length
    ocp := overwrite ocp 0 (out.set 0 (octet out 0 ||| slTypeUncompressedTcp))
    useCopy := true }

/-- Send the changes of a packet, and its data. -/
def sendCompressed (comp : SlCompress) (cs : ℕ) (icp : Packet) (ip th : Bytes) (hlen : ℕ)
    (ocp : Bytes) (compressCid : Bool) (changes : ℕ) (newSeq : Bytes) : Compressed :=
  let slot := comp.tstate cs
  let comp := comp.setT cs fun s ↦ { s with csIp := ip, csTcp := th }
  let explicit := compressCid = false ∨ comp.xmitCurrent ≠ slot.csThis
  let front : Bytes :=
    if explicit then [.ofNat (changes ||| newC) ||| slTypeCompressedTcp, .ofNat slot.csThis]
    else [.ofNat changes ||| slTypeCompressedTcp]
  let out := front ++ tcpCheck th ++ newSeq ++ icp.data.drop hlen
  { comp := if explicit then { comp with xmitCurrent := slot.csThis } else comp
    len := out.length
    ocp := overwrite ocp 0 out
    useCopy := true }

/-- `slhc_compress`. -/
def slhcCompress (comp : SlCompress) (icp : Packet) (ocp : Bytes) (compressCid : Bool) :
    Option Compressed :=
  let isize := icp.data.length
  let asIs : Compressed := ⟨comp, isize, ocp, false⟩
  let ip := icp.slice 0 20
  let th := icp.slice (ihl ip * 4) 20
  let hlen := ihl ip * 4 + tcpDoff th * 4
  if isize < 20 then some asIs
  else if ipProtocol ip ≠ ipprotoTcp ∨ ipFragOff ip % 0x4000 ≠ 0 then some asIs
  else if isize < hlen ∨ tcpFlag th 1 ∨ tcpFlag th 0 ∨ tcpFlag th 2 ∨ tcpFlag th 4 = false then
    some asIs
  else do
    let ocs := comp.xmitOldest
    let s ← search comp ip th (comp.tslotLimit + 1) ocs (comp.tstate ocs).next
    if s.found then
      let comp := moveToFront comp s.lcs s.cs
      let slot := comp.tstate s.cs
      if unexpectedChange slot icp ip th then pure (sendUncompressed comp s.cs icp ip th ocp)
      else
        match changesOf slot hlen ip th with
        | none => pure (sendUncompressed comp s.cs icp ip th ocp)
        | some (changes, newSeq) =>
          pure (sendCompressed comp s.cs icp ip th hlen ocp compressCid changes newSeq)
    else
      -- the oldest slot is used again
      let comp := { comp with xmitOldest := (comp.tstate s.lcs).csThis }
      pure (sendUncompressed comp s.cs icp ip th ocp)

/-! ## The receiver -/

/-- What a function of the receiver leaves: its state, the packet, and the length that it
returns. -/
structure Expanded where
  comp : SlCompress
  data : Bytes
  len : ℕ

/-- `slhc_toss`: nothing is taken without an explicit slot. -/
def slhcToss (comp : SlCompress) (data : Bytes) : Expanded := ⟨{ comp with toss := true }, data, 0⟩

/-- The accumulator of `ip_fast_csum`, over a number of words of 16 bits. -/
def csumAcc (h : ℕ → UInt8) (words : ℕ) : ℕ :=
  (List.range words).foldl (fun acc i ↦
    let acc := acc + ((h (2 * i)).toNat * 256 + (h (2 * i + 1)).toNat)
    if 0xffff < acc then (acc + 1) % 65536 else acc) 0xffff

/-- `ip_fast_csum`, in network order. -/
def ipFastCsum (h : ℕ → UInt8) (ihl : ℕ) : ℕ := 65535 - csumAcc h (ihl * 2)

/-- `slhc_remember`. -/
def slhcRemember (comp : SlCompress) (icp : Packet) : Expanded :=
  let words := (octet icp.data 0).toNat % 16
  if icp.data.length < 20 then slhcToss comp icp.data
  else if words < 5 then slhcToss comp icp.data
  else
    let index := (octet icp.data 9).toNat
    let icp := { icp with data := icp.data.set 9 ipprotoTcp }
    if ipFastCsum icp.at words ≠ 0 then slhcToss comp icp.data
    else if comp.rslotLimit < index then slhcToss comp icp.data
    else
      let th := icp.slice (words * 4) 20
      let comp := comp.setR index fun s ↦ { s with
        csIp := icp.slice 0 20
        csTcp := th
        csIpopt := if 5 < words then overwrite s.csIpopt 0 (icp.slice 20 ((words - 5) * 4))
          else s.csIpopt
        csTcpopt := if 5 < tcpDoff th then
            overwrite s.csTcpopt 0 (icp.slice (words * 4 + 20) ((tcpDoff th - 5) * 4))
          else s.csTcpopt }
      ⟨{ comp with recvCurrent := index, toss := false }, icp.data, icp.data.length⟩

/-- `decode`: a number, and where the next one is. -/
def decode (icp : Packet) (cp : ℕ) : ℕ × ℕ :=
  if icp.at cp = 0 then (be16 (icp.slice (cp + 1) 2) 0, cp + 3) else ((icp.at cp).toNat, cp + 1)

/-- Set or clear a flag of a TCP header. -/
def setFlag (th : Bytes) (bit : ℕ) (b : Bool) : Bytes :=
  let flags := (octet th 13).toNat
  let clear := flags - if flags.testBit bit then 2 ^ bit else 0
  th.set 13 (.ofNat (clear + if b then 2 ^ bit else 0))

/-- Add to a number of 32 bits, and to one of 16 bits. -/
def add32 (h : Bytes) (i : ℕ) (x : ℤ) : Bytes :=
  overwrite h i (put32 ((be32 h i + x) % 2 ^ 32).toNat)
def add16 (h : Bytes) (i : ℕ) (x : ℤ) : Bytes :=
  overwrite h i (put16 ((be16 h i + x) % 2 ^ 16).toNat)

/-- The changes of a TCP header that a packet lists, and where they end. -/
def applyListed (changes : ℕ) (icp : Packet) (th : Bytes) (cp : ℕ) : Bytes × ℕ :=
  let has (bit : ℕ) : Bool := changes &&& bit ≠ 0
  let th := setFlag th 5 (has newU)
  let (th, cp) :=
    if has newU then (overwrite th 18 (put16 (decode icp cp).1), (decode icp cp).2) else (th, cp)
  let (th, cp) :=
    if has newW then (add16 th 14 (decode icp cp).1, (decode icp cp).2) else (th, cp)
  let (th, cp) :=
    if has newA then (add32 th 8 (decode icp cp).1, (decode icp cp).2) else (th, cp)
  if has newS then (add32 th 4 (decode icp cp).1, (decode icp cp).2) else (th, cp)

/-- A number of 16 bits with a sign. -/
def signed16 (x : ℤ) : ℤ := (x + 32768) % 65536 - 32768

/-- The changes of a TCP header, and where their list ends. -/
def applyChanges (changes : ℕ) (icp : Packet) (ip th : Bytes) (cp : ℕ) : Bytes × ℕ :=
  let hdrlen := ihl ip * 4 + tcpDoff th * 4
  let dataLen := (ipTotLen ip : ℤ) - hdrlen
  let th := setFlag th 3 (changes &&& tcpPushBit ≠ 0)
  if changes &&& specialsMask = specialI then
    (add32 (add32 th 8 (signed16 dataLen)) 4 (signed16 dataLen), cp)
  else if changes &&& specialsMask = specialD then (add32 th 4 dataLen, cp)
  else applyListed changes icp th cp

/-- Put the headers of a slot in front of the data that starts at an offset. The packet grows into
what lies behind it. -/
def restoreHeaders (slot : CState) (icp : Packet) (hdrlen cp : ℕ) : Bytes :=
  let ipEnd := 20 + (ihl slot.csIp - 5) * 4
  let data := overwrite (icp.slice 0 (icp.data.length + hdrlen)) hdrlen (icp.data.drop cp)
  let data := overwrite data 0 (slot.csIp ++ slot.csIpopt.take ((ihl slot.csIp - 5) * 4))
  let data := overwrite data 10 (put16 (ipFastCsum (octet data) (ihl slot.csIp)))
  overwrite data ipEnd (slot.csTcp ++ slot.csTcpopt.take ((tcpDoff slot.csTcp - 5) * 4))

/-- `slhc_uncompress`, from the slot that is taken and what comes after its number. -/
def uncompressFrom (comp : SlCompress) (icp : Packet) (changes cp : ℕ) : Expanded :=
  let slot := comp.rstate comp.recvCurrent
  let th := overwrite slot.csTcp 16 (icp.slice cp 2)
  let (th, cp) := applyChanges changes icp slot.csIp th (cp + 2)
  let hdrlen := ihl slot.csIp * 4 + tcpDoff th * 4
  let (id, cp) := if changes &&& newI ≠ 0 then decode icp cp else (1, cp)
  let ip := add16 slot.csIp 4 id
  if icp.data.length < cp then
    slhcToss (comp.setR comp.recvCurrent fun s ↦ { s with csIp := ip, csTcp := th }) icp.data
  else
    let len := icp.data.length - cp + hdrlen
    let ip := overwrite (overwrite ip 2 (put16 len)) 10 [0, 0]
    let slot := { slot with csIp := ip, csTcp := th }
    ⟨comp.setR comp.recvCurrent fun _ ↦ slot, restoreHeaders slot icp hdrlen cp, len⟩

/-- `slhc_uncompress`. -/
def slhcUncompress (comp : SlCompress) (icp : Packet) : Expanded :=
  let changes := (icp.at 0).toNat
  if icp.data.length < 3 then ⟨comp, icp.data, 0⟩
  else if changes &&& newC ≠ 0 then
    let x := (icp.at 1).toNat
    if comp.rslotLimit < x then slhcToss comp icp.data
    else uncompressFrom { comp with recvCurrent := x, toss := false } icp changes 2
  else if comp.toss then ⟨comp, icp.data, 0⟩
  else uncompressFrom comp icp changes 1

end OsmoSgsn.Sndcp
