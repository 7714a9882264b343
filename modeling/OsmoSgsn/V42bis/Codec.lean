import OsmoSgsn.Basic
import OsmoSgsn.Library.BitPacking

/-!
# Compression as per V.42bis

Both ends keep a dictionary of strings, a forest of octets in a table. The compressor sends the
longest string of the dictionary that its input starts with, in transparent mode octet by octet and
in compressed mode as a codeword, and adds that string with the next octet to the dictionary. The
decompressor makes the same additions, one codeword later. Entries are used again once the table is
full: leaves, in the order of their numbers.

In transparent mode an escape octet announces a command, and moves on each time it occurs in data.

The table has as many entries here as the negotiated number of codewords asks for. The loops over it
are not known to end in a table that is not a forest: they have as many rounds as there are numbers
of entries.
-/

namespace OsmoSgsn.V42bis

/-! ## Parameters -/

/-- The number of control codewords, and the first entry that stores a string. -/
def n6 : ℕ := 3
def n5 : ℕ := 256 + n6

/-- What the escape octet moves on by. -/
def escStep : UInt8 := 51

/-- Compressibility monitoring. -/
def compressibilityMonitor : ℕ := 256 * 8
def compressibilityMonitorHysteresis : ℕ := 11

/-- Control codewords in compressed mode. -/
def etm : ℕ := 0
def flush : ℕ := 1
def stepup : ℕ := 2

/-- Commands in transparent mode. -/
def ecm : UInt8 := 0
def eid : UInt8 := 1
def reset : UInt8 := 2

def minStringSize : ℕ := 6
def maxStringSize : ℕ := 250
def minDictionarySize : ℕ := 512
def maxCodewords : ℕ := 4096
def maxOutputLength : ℕ := 1024

inductive CompressionMode
  | dynamic
  | always
  | never
  deriving DecidableEq, Repr

/-! ## State -/

/-- `v42bis_dict_node_t`. Zero is the number of no node. -/
structure DictNode where
  nodeOctet : UInt8
  parent : ℕ
  child : ℕ
  next : ℕ
  deriving DecidableEq, Repr

/-- The table, with the next entry to use and the number of codewords. -/
structure Dictionary where
  dict : ℕ → DictNode
  c1 : ℕ
  n2 : ℕ

/-- `v42bis_comp_state_t`, one direction. -/
structure CompState extends Dictionary where
  p0 : ℕ
  compressionMode : CompressionMode
  maxOutputLen : ℕ
  transparent : Bool
  /-- The width of codewords. -/
  c2 : ℕ
  /-- The first codeword that is wider. -/
  c3 : ℕ
  updateAt : ℕ
  lastMatched : ℕ
  lastAdded : ℕ
  /-- The length of the longest string. -/
  n7 : ℕ
  /-- The string in progress, up to its length. -/
  string : Bytes
  flushedLength : ℕ
  compressionPerformance : ℕ
  bitBuffer : ℕ
  bitCount : ℕ
  /-- The output buffer, up to the number of its octets. -/
  outputBuf : Bytes
  escapeCode : UInt8
  escaped : Bool
  /-- What the handler was given. -/
  handled : Bytes

/-- How a function does not return well. -/
inductive Failure
  /-- The function returns -1, after the handler was given so many octets. -/
  | badCode (handled : ℕ)
  | hangs
  deriving DecidableEq, Repr

/-- The rounds of a loop over the table. -/
def rounds : ℕ := 65536

/-! ## Output -/

def pushOctet (s : CompState) (octet : UInt8) : CompState :=
  let buf := s.outputBuf ++ [octet]
  if s.maxOutputLen ≤ buf.length then { s with handled := s.handled ++ buf, outputBuf := [] }
  else { s with outputBuf := buf }

/-- The loop of `push_octets`. A round takes an octet at least, the first one possibly none. -/
def pushChunks : ℕ → CompState → Bytes → CompState
  | 0, s, _ => s
  | fuel + 1, s, buf =>
    if s.maxOutputLen ≤ s.outputBuf.length + buf.length then
      let chunk := s.maxOutputLen - s.outputBuf.length
      pushChunks fuel
        { s with handled := s.handled ++ s.outputBuf ++ buf.take chunk, outputBuf := [] }
        (buf.drop chunk)
    else { s with outputBuf := s.outputBuf ++ buf }

def pushOctets (s : CompState) (buf : Bytes) : CompState := pushChunks (buf.length + 2) s buf

/-- Put out an octet of the bit buffer. -/
def pushBits (s : CompState) : CompState :=
  let s' := pushOctet s (.ofNat s.bitBuffer)
  { s' with bitBuffer := s.bitBuffer >>> 8, bitCount := s.bitCount - 8 }

/-- As long as there are eight bits. -/
def drainBits (s : CompState) : CompState := pushBits^[s.bitCount / 8] s

def pushCompressedCode (s : CompState) (code : ℕ) : CompState :=
  drainBits { s with
    bitBuffer := (s.bitBuffer ||| code <<< s.bitCount) % 2 ^ 32
    bitCount := s.bitCount + s.c2 }

def pushOctetAlignment (s : CompState) : CompState :=
  if s.bitCount % 8 ≠ 0 then drainBits { s with bitCount := s.bitCount + (8 - s.bitCount % 8) }
  else s

def flushOctets (s : CompState) : CompState :=
  { s with handled := s.handled ++ s.outputBuf, outputBuf := [] }

/-! ## The dictionary -/

/-- The entries of single octets. -/
def emptyDict (i : ℕ) : DictNode := ⟨if n6 ≤ i ∧ i < n5 then .ofNat (i - n6) else 0, 0, 0, 0⟩

/-- `dictionary_init`. -/
def dictionaryInit (s : CompState) : CompState :=
  { s with
    dict := emptyDict
    c1 := n5
    c2 := 8 + 1
    c3 := 256 <<< 1
    lastMatched := 0
    updateAt := 0
    lastAdded := 0
    bitBuffer := 0
    bitCount := 0
    flushedLength := 0
    string := []
    escapeCode := 0
    transparent := true
    escaped := false
    compressionPerformance := compressibilityMonitor }

/-- The entry for an octet, from an entry on and through those at the same depth. -/
def findOctet (dict : ℕ → DictNode) (octet : UInt8) : ℕ → ℕ → Except Failure ℕ
  | 0, _ => .error .hangs
  | fuel + 1, e =>
    if e = 0 then .ok 0
    else if (dict e).nodeOctet = octet then .ok e
    else findOctet dict octet fuel (dict e).next

/-- `match_octet`. -/
def matchOctet (dict : ℕ → DictNode) (at' : ℕ) (octet : UInt8) : Except Failure ℕ :=
  if at' = 0 then .ok (octet.toNat + n6)
  else findOctet dict octet rounds (dict at').child

/-- Change an entry. -/
def Dictionary.modify (t : Dictionary) (i : ℕ) (f : DictNode → DictNode) : Dictionary :=
  { t with dict := Function.update t.dict i (f (t.dict i)) }

/-- Recover an entry to use next: the next one that has no children. -/
def recover (dict : ℕ → DictNode) (n2 : ℕ) : ℕ → ℕ → Except Failure ℕ
  | 0, _ => .error .hangs
  | fuel + 1, next =>
    let next := if next + 1 = n2 then n5 else next + 1
    if (dict next).child ≠ 0 then recover dict n2 fuel next else .ok next

/-- The entry in front of one, from an entry on. -/
def before (dict : ℕ → DictNode) (next : ℕ) : ℕ → ℕ → Except Failure ℕ
  | 0, _ => .error .hangs
  | fuel + 1, e => if (dict e).next = next then .ok e else before dict next fuel (dict e).next

/-- Detach a leaf from its parent. -/
def detach (t : Dictionary) (next : ℕ) : Except Failure Dictionary :=
  let e := (t.dict next).parent
  if e = 0 then .ok t
  else if (t.dict e).child = next then
    .ok (t.modify e fun n ↦ { n with child := (t.dict next).next })
  else do
    let e ← before t.dict next rounds (t.dict e).child
    pure (t.modify e fun n ↦ { n with next := (t.dict next).next })

/-- Put the next entry to use in front of the children of another one. -/
def putNode (t : Dictionary) (at' : ℕ) (octet : UInt8) : Dictionary :=
  let newx := t.c1
  let t := t.modify newx fun n ↦ { n with nodeOctet := octet, parent := at', child := 0 }
  let t := t.modify newx fun n ↦ { n with next := (t.dict at').child }
  t.modify at' fun n ↦ { n with child := newx }

/-- `add_octet_to_dictionary`. -/
def addOctetToDictionary (t : Dictionary) (at' : ℕ) (octet : UInt8) :
    Except Failure (ℕ × Dictionary) := do
  let newx := t.c1
  let t := putNode t at' octet
  let next ← recover t.dict t.n2 rounds newx
  let t ← detach t next
  pure (newx, { t with c1 := next })

/-- Add an octet below an entry that waits for it, if it is not there yet. -/
def updateDictionary (s : CompState) (octet : UInt8) : Except Failure CompState :=
  if s.updateAt = 0 then .ok s
  else do
    if (← matchOctet s.dict s.updateAt octet) = 0 then
      let (added, t) ← addOctetToDictionary s.toDictionary s.updateAt octet
      pure { s with toDictionary := t, lastAdded := added, updateAt := 0 }
    else pure { s with updateAt := 0 }

/-! ## Strings -/

/-- `send_string`. -/
def sendString (s : CompState) : CompState :=
  { pushOctets s s.string with string := [], flushedLength := 0 }

/-- The octets on the way from an entry to its root. -/
def spell (dict : ℕ → DictNode) : ℕ → ℕ → Bytes → Except Failure Bytes
  | 0, _, _ => .error .hangs
  | fuel + 1, p, acc =>
    if p = 0 then .ok acc else spell dict fuel (dict p).parent ((dict p).nodeOctet :: acc)

/-- `expand_codeword_to_string`. -/
def expandCodewordToString (s : CompState) (code : ℕ) : Except Failure CompState := do
  let expanded ← spell s.dict rounds code []
  pure { s with string := s.string ++ expanded }

/-- An octet in transparent mode, with what marks it as data. -/
def sendTransparent (s : CompState) (octet : UInt8) : CompState :=
  let s := pushOctet s octet
  if octet = s.escapeCode then { pushOctet s eid with escapeCode := s.escapeCode + escStep } else s

/-- The escape octet moves on. -/
def allowEscape (s : CompState) (octet : UInt8) : CompState :=
  if octet = s.escapeCode then { s with escapeCode := s.escapeCode + escStep } else s

/-- Increase the width of codewords until one fits. The threshold is a number of 16 bits, and after
that many rounds it is zero. -/
def stepUp (code : ℕ) : ℕ → CompState → Except Failure CompState
  | 0, _ => .error .hangs
  | fuel + 1, s =>
    if s.c3 ≤ code then
      let s := pushCompressedCode s stepup
      stepUp code fuel { s with c2 := s.c2 + 1, c3 := s.c3 <<< 1 % 65536 }
    else .ok s

/-- The metric of compressibility, in 16 bits. -/
def CompState.performance (s : CompState) : ℕ :=
  (((s.compressionPerformance : ℤ) + (s.c2 -
    s.compressionPerformance * s.string.length * 8 / compressibilityMonitor)) % 65536).toNat

/-- `send_encoded_data`. -/
def sendEncodedData (s : CompState) (code : ℕ) : Except Failure CompState := do
  let s := { s with compressionPerformance := s.performance }
  let s ←
    if s.transparent then pure (s.string.foldl sendTransparent s)
    else do
      let s ← stepUp code 17 (s.string.foldl allowEscape s)
      pure (pushCompressedCode s code)
  pure { s with string := [], flushedLength := 0 }

/-! ## Modes -/

/-- Send what was matched and wait for the octet after it. -/
def sendMatched (s : CompState) : Except Failure CompState :=
  if s.lastMatched = 0 then .ok s
  else do
    let s ← sendEncodedData { s with updateAt := s.lastMatched } s.lastMatched
    pure { s with lastMatched := 0 }

def goCompressed (s : CompState) : Except Failure CompState :=
  if s.transparent then do
    let s ← sendMatched s
    let s := pushOctet (pushOctet s s.escapeCode) ecm
    pure { s with bitBuffer := 0, transparent := false }
  else .ok s

def goTransparent (s : CompState) : Except Failure CompState :=
  if s.transparent then .ok s
  else do
    let s ← sendMatched s
    let s := pushOctetAlignment (pushCompressedCode { s with lastAdded := 0 } etm)
    pure { s with transparent := true }

def monitorForModeChange (s : CompState) : Except Failure CompState :=
  match s.compressionMode with
  | .dynamic =>
    if s.transparent then
      if s.compressionPerformance < compressibilityMonitor - compressibilityMonitorHysteresis then
        goCompressed s
      else .ok s
    else if compressibilityMonitor < s.compressionPerformance then goTransparent s
    else .ok s
  | .always => if s.transparent then goCompressed s else .ok s
  | .never => if s.transparent then .ok s else goTransparent s

/-! ## Compressing -/

/-- Match a string, up to where the dictionary or the input ends or it is long enough. -/
def matchString (s : CompState) : Bytes → Except Failure (CompState × Bytes)
  | [] => .ok (s, [])
  | octet :: buf => do
    let code ← matchOctet s.dict s.lastMatched octet
    if code = 0 then
      let s ← sendEncodedData { s with updateAt := s.lastMatched } s.lastMatched
      pure ({ s with lastMatched := 0 }, octet :: buf)
    else if code = s.lastAdded then
      let s ← sendEncodedData { s with lastAdded := 0 } s.lastMatched
      pure ({ s with lastMatched := 0 }, octet :: buf)
    else
      let s := { s with lastMatched := code, string := s.string ++ [octet] }
      if s.string.length + s.flushedLength = s.n7 then
        let s ← sendEncodedData s s.lastMatched
        pure ({ s with lastMatched := 0 }, buf)
      else matchString s buf

/-- The loop of `v42bis_compress`. -/
def compressLoop : ℕ → CompState → Bytes → Except Failure CompState
  | _, s, [] => .ok s
  | 0, _, _ :: _ => .error .hangs
  | fuel + 1, s, octet :: buf => do
    let s ← updateDictionary s octet
    let (s, buf) ← matchString s (octet :: buf)
    let s ← monitorForModeChange s
    compressLoop fuel s buf

/-- `v42bis_compress`. Of two rounds one takes an octet. -/
def v42bisCompress (s : CompState) (buf : Bytes) : Except Failure CompState :=
  if s.p0 = 0 then .ok (pushOctets s buf) else compressLoop (2 * buf.length) s buf

def v42bisCompressFlush (s : CompState) : Except Failure CompState :=
  if s.updateAt ≠ 0 then .ok s
  else do
    let s ←
      if s.lastMatched ≠ 0 then do
        let len := s.string.length
        let s ← sendEncodedData s s.lastMatched
        pure { s with flushedLength := s.flushedLength + len }
      else pure s
    let s :=
      if s.transparent then s
      else pushOctetAlignment (pushCompressedCode
        { s with updateAt := s.lastMatched, lastMatched := 0, flushedLength := 0 } flush)
    pure (flushOctets s)

/-! ## Decompressing -/

/-- A round for an octet of data, and whether it takes the octet. -/
def takeOnce (s : CompState) (octet : UInt8) : Except Failure (CompState × Bool) := do
  let s ← updateDictionary s octet
  let code ← matchOctet s.dict s.lastMatched octet
  if code = 0 then
    pure ({ sendString { s with updateAt := s.lastMatched } with lastMatched := 0 }, false)
  else if code = s.lastAdded then
    pure ({ sendString { s with lastAdded := 0 } with lastMatched := 0 }, false)
  else
    let s := { s with lastMatched := code, string := s.string ++ [octet] }
    if s.string.length + s.flushedLength = s.n7 then
      pure ({ sendString s with lastMatched := 0 }, true)
    else pure (s, true)

/-- Two rounds, unless the first one takes the octet. -/
def takeOctet (s : CompState) (octet : UInt8) : Except Failure (CompState × Bool) := do
  let (s, taken) ← takeOnce s octet
  if taken then pure (s, true) else takeOnce s octet

/-- Add the first octet of a string below the entry that waits for it, if it is not there yet. -/
def addFirst (s : CompState) (code : ℕ) : Except Failure CompState :=
  if s.updateAt = 0 then .ok s
  else do
    let ch := octet s.string 0
    let p ← matchOctet s.dict s.updateAt ch
    if p = 0 then
      let (added, t) ← addOctetToDictionary s.toDictionary s.updateAt ch
      if code = t.c1 then .error (.badCode s.handled.length)
      else pure { s with toDictionary := t, lastAdded := added }
    else if p = s.lastAdded then pure { s with lastAdded := 0 }
    else pure s

/-- A regular codeword. -/
def takeCode (s : CompState) (code : ℕ) : Except Failure CompState :=
  if code = s.c1 then .error (.badCode s.handled.length)
  else do
    let s ← expandCodewordToString s code
    let s ← addFirst s code
    let s := { s with
      updateAt := if s.string.length + s.flushedLength = s.n7 then 0 else code }
    pure (sendString (s.string.foldl allowEscape s))

/-- A control codeword. -/
def takeControl (s : CompState) (code : ℕ) : Except Failure CompState :=
  if code = etm then
    .ok { s with bitCount := 0, transparent := true, lastMatched := 0, lastAdded := 0 }
  else if code = flush then .ok { s with bitCount := 0 }
  else
    let s := { s with c2 := s.c2 + 1, c3 := s.c3 <<< 1 % 65536 }
    if s.n2 >>> 3 < s.c2 then .error (.badCode s.handled.length) else .ok s

/-- Take octets into the bit buffer until there are bits for a codeword. -/
def fillBits (s : CompState) : Bytes → CompState × Bytes
  | [] => (s, [])
  | octet :: buf =>
    if s.bitCount < s.c2 then
      fillBits { s with
        bitBuffer := (s.bitBuffer ||| octet.toNat <<< s.bitCount) % 2 ^ 32
        bitCount := s.bitCount + 8 } buf
    else (s, octet :: buf)

/-- A round of the loop of `v42bis_decompress`, from an octet and those behind it. -/
def decompressRound (s : CompState) (octet : UInt8) (buf : Bytes) :
    Except Failure (CompState × Bytes) :=
  if s.transparent then
    if s.escaped then
      let s := { s with escaped := false }
      if octet = ecm then
        let s := { sendString s with transparent := false }
        .ok ({ s with updateAt := s.lastMatched, lastMatched := 0 }, buf)
      else if octet = eid then do
        let (s, taken) ← takeOctet { s with escapeCode := s.escapeCode + escStep } s.escapeCode
        pure (s, if taken then buf else octet :: buf)
      else if octet = reset then .ok (dictionaryInit (sendString s), buf)
      else .error (.badCode s.handled.length)
    else if octet = s.escapeCode then .ok ({ s with escaped := true }, buf)
    else do
      let (s, taken) ← takeOctet s octet
      pure (s, if taken then buf else octet :: buf)
  else
    let (s, buf) := fillBits s (octet :: buf)
    if s.bitCount < s.c2 then .ok (s, buf)
    else do
      let code := s.bitBuffer % 2 ^ s.c2 % 65536
      let s := { s with bitBuffer := s.bitBuffer >>> s.c2, bitCount := s.bitCount - s.c2 }
      let s ← if code < n6 then takeControl s code else takeCode s code
      pure (s, buf)

/-- The loop of `v42bis_decompress`. -/
def decompressLoop : ℕ → CompState → Bytes → Except Failure CompState
  | _, s, [] => .ok s
  | 0, _, _ :: _ => .error .hangs
  | fuel + 1, s, octet :: buf => do
    let (s, buf) ← decompressRound s octet buf
    decompressLoop fuel s buf

/-- `v42bis_decompress`. Of two rounds one takes an octet. -/
def v42bisDecompress (s : CompState) (buf : Bytes) : Except Failure CompState :=
  if s.p0 = 0 then .ok (pushOctets s buf) else decompressLoop (2 * buf.length) s buf

def v42bisDecompressFlush (s : CompState) : CompState :=
  let len := s.string.length
  let s := sendString s
  flushOctets { s with flushedLength := s.flushedLength + len }

/-! ## Initialisation -/

/-- `v42bis_comp_init`, with the parameter that is set after it. -/
def v42bisCompInit (p0 p1 p2 maxOutputLen : ℕ) : CompState :=
  dictionaryInit
    { dict := fun _ ↦ ⟨0, 0, 0, 0⟩, c1 := 0, n2 := p1, p0, compressionMode := .dynamic
      maxOutputLen := min maxOutputLen maxOutputLength, transparent := false, c2 := 0, c3 := 0
      updateAt := 0, lastMatched := 0, lastAdded := 0, n7 := p2, string := []
      flushedLength := 0, compressionPerformance := 0, bitBuffer := 0, bitCount := 0
      outputBuf := [], escapeCode := 0, escaped := false, handled := [] }

/-- `v42bis_state_t`. -/
structure State where
  compress : CompState
  decompress : CompState

/-- `v42bis_init`. -/
def v42bisInit (p0 p1 p2 maxEncodeLen maxDecodeLen : ℕ) : Option State :=
  if p1 < minDictionarySize ∨ 65535 < p1 then none
  else if p2 < minStringSize ∨ maxStringSize < p2 then none
  else some
    { compress := v42bisCompInit (p0 &&& 2) p1 p2 maxEncodeLen
      decompress := v42bisCompInit (p0 &&& 1) p1 p2 maxDecodeLen }

end OsmoSgsn.V42bis
