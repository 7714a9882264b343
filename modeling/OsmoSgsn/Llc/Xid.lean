import OsmoSgsn.Basic

/-!
# LLC-XID messages

The parameters of a logical link are negotiated with messages that are a sequence of fields. A field
has a type of five bits and a length, which stands in the last two bits of the first octet or, in
the extended form, in eight bits across the first octet and the next one.

The encoder takes the fields of a list from the last to the first, and the decoder puts each field
in front of those before it, so the two reversals cancel. The decoder is handed the length of what
remains of the message in eight bits. A field can be read back exactly if it fits into what these
eight bits say, which messages of 256 octets and more may not meet.
-/

namespace OsmoSgsn.Llc

/-- A parameter field. Its length is that of the data. -/
structure GprsLlcXidField where
  /-- The type. -/
  type : UInt8
  /-- Payload data. -/
  data : Bytes
  deriving DecidableEq, Repr

/-! ## Encoding -/

namespace GprsLlcXidField

/-- Whether the length does not fit into two bits. -/
def xl (f : GprsLlcXidField) : Bool := f.data.length > 3

/-- The octets that a field takes. -/
def size (f : GprsLlcXidField) : ℕ := f.data.length + 1 + f.xl.toNat

/-- The octets in front of the data. -/
def header (f : GprsLlcXidField) : Bytes :=
  if f.xl then
    [(0x80 : UInt8) ||| (f.type &&& 0x1f) <<< 2 ||| UInt8.ofNat (f.data.length >>> 6 &&& 0x03),
      UInt8.ofNat (f.data.length <<< 2 &&& 0xfc)]
  else [(f.type &&& 0x1f) <<< 2 ||| UInt8.ofNat (f.data.length &&& 0x03)]

@[simp] theorem length_header (f : GprsLlcXidField) : f.header.length = 1 + f.xl.toNat := by
  rw [header]
  split
  · next h => rw [h]; rfl
  · next h => rw [Bool.eq_false_iff.mpr h]; rfl

theorem size_eq (f : GprsLlcXidField) : f.size = f.header.length + f.data.length := by
  rw [size, length_header]
  omega

theorem size_pos (f : GprsLlcXidField) : 0 < f.size := by
  rw [size]
  omega

end GprsLlcXidField

/-- Encode a field into what is left of a buffer. -/
def encodeXidField (dstMaxlen : ℕ) (f : GprsLlcXidField) : Option Bytes :=
  if dstMaxlen < f.size then none
  else if f.type > 31 then none
  else some (f.header ++ f.data)

/-- The loop of the encoder, over the fields in the order in which it takes them. -/
def compileFields (dstMaxlen : ℕ) : List GprsLlcXidField → Option Bytes
  | [] => some []
  | f :: fs =>
    (encodeXidField dstMaxlen f).bind fun bytes ↦
      (compileFields (dstMaxlen - bytes.length) fs).map (bytes ++ ·)

/-- Transform a list of fields into a message, in a buffer of a size. -/
def gprsLlcCompileXid (dstMaxlen : ℕ) (xidFields : List GprsLlcXidField) : Option Bytes :=
  compileFields dstMaxlen xidFields.reverse

/-! ## Decoding -/

/-- Whether the field at the start of a message has an extended length. -/
def xidXl (src : Bytes) : Bool := octet src 0 >>> 7 &&& 1 ≠ 0

/-- The length of the field at the start of a message. -/
def xidLen (src : Bytes) : ℕ :=
  if xidXl src then
    ((octet src 0 &&& 0x3) <<< 6 &&& (0xc0 : UInt8) ||| octet src 1 >>> 2 &&& (0x3f : UInt8)).toNat
  else (octet src 0 &&& 0x3).toNat

/-- Parse the field at the start of what remains of a message, whose length is given apart. The
second component is the number of octets that the field takes. -/
def decodeXidField (src : Bytes) (srcLen : ℕ) : Option (GprsLlcXidField × ℕ) :=
  let counter := 1 + (xidXl src).toNat
  if srcLen < 1 then none
  else if xidXl src ∧ srcLen < 2 then none
  else if 0 < xidLen src ∧ srcLen < counter + xidLen src then none
  else some (⟨octet src 0 >>> 2 &&& 0x1f, (src.drop counter).take (xidLen src)⟩,
    counter + xidLen src)

/-- The loop of the decoder. The length of what remains is an `int` here and a `uint8_t` there. -/
def parseLoop : ℕ → Bytes → List GprsLlcXidField → Option (List GprsLlcXidField)
  | 0, _, _ => none
  | maxLoops + 1, src, xidFields =>
    match decodeXidField src (src.length % 2 ^ 8) with
    | none => none
    | some (f, rc) =>
      if src.drop rc = [] then some (f :: xidFields)
      else parseLoop maxLoops (src.drop rc) (f :: xidFields)

/-- Transform a message into a list of fields. -/
def gprsLlcParseXid (src : Bytes) : Option (List GprsLlcXidField) := parseLoop src.length src []

/-- The places of a message at which the decoder reads a field. -/
inductive FieldStart : Bytes → Bytes → Prop
  | here (src : Bytes) : FieldStart src src
  | later {src place : Bytes} {f : GprsLlcXidField} {rc : ℕ}
      (hf : decodeXidField src (src.length % 2 ^ 8) = some (f, rc)) (hrest : src.drop rc ≠ [])
      (hplace : FieldStart (src.drop rc) place) : FieldStart src place

/-- A field uses the extended form only where it has to. -/
def ShortestLength (src : Bytes) : Prop := xidXl src → 3 < xidLen src

/-- The two bits of an extended length that mean nothing are zero. -/
def SpareZero (src : Bytes) : Prop := xidXl src → octet src 1 &&& 0x3 = 0

/-! ## The octets of a header -/

section Header

variable {f : GprsLlcXidField}

private theorem header_xl : ∀ (type : Fin 32) (top : Fin 4),
    let b := (0x80 : UInt8) ||| (UInt8.ofNat type &&& 0x1f) <<< 2 ||| UInt8.ofNat top
    b >>> 7 &&& 1 ≠ 0 ∧ b >>> 2 &&& 0x1f = UInt8.ofNat type ∧ b &&& 0x3 = UInt8.ofNat top := by
  decide +kernel

private theorem header_short : ∀ (type : Fin 32) (len : Fin 4),
    let b := (UInt8.ofNat type &&& 0x1f) <<< 2 ||| UInt8.ofNat len
    b >>> 7 &&& 1 = 0 ∧ b >>> 2 &&& 0x1f = UInt8.ofNat type ∧ (b &&& 0x3).toNat = len := by
  decide +kernel

private theorem header_len : ∀ len : Fin 256,
    (UInt8.ofNat (len.val >>> 6 &&& 0x03) <<< 6 &&& (0xc0 : UInt8) |||
      UInt8.ofNat (len.val <<< 2 &&& 0xfc) >>> 2 &&& (0x3f : UInt8)).toNat = len := by
  decide +kernel

/-- What the decoder reads from a header: form, type and length of the field. -/
theorem read_header (htype : f.type ≤ 31) (hlen : f.data.length ≤ 255) (tail : Bytes) :
    xidXl (f.header ++ tail) = f.xl ∧ octet (f.header ++ tail) 0 >>> 2 &&& 0x1f = f.type ∧
      xidLen (f.header ++ tail) = f.data.length := by
  have htype' : f.type.toNat < 32 := Nat.lt_succ_of_le htype
  have hofNat : UInt8.ofNat f.type.toNat = f.type := UInt8.ofNat_toNat
  by_cases hxl : f.xl
  · have htop : f.data.length >>> 6 &&& 0x03 < 4 := Nat.lt_succ_of_le Nat.and_le_right
    obtain ⟨hx, ht, hl⟩ := header_xl ⟨f.type.toNat, htype'⟩ ⟨f.data.length >>> 6 &&& 0x03, htop⟩
    simp only [hofNat] at hx ht hl
    have hxl' : xidXl (f.header ++ tail) = true := by
      simpa [xidXl, GprsLlcXidField.header, hxl] using hx
    refine ⟨hxl'.trans hxl.symm, ?_, ?_⟩
    · simpa [GprsLlcXidField.header, hxl] using ht
    · rw [xidLen, if_pos hxl']
      simp only [GprsLlcXidField.header, hxl, if_true, List.cons_append, octet_cons_zero,
        octet_cons_succ, hl]
      exact header_len ⟨f.data.length, Nat.lt_succ_of_le hlen⟩
  · have hshort : f.data.length < 4 := by
      simpa [GprsLlcXidField.xl, Nat.lt_succ_iff] using hxl
    have hmask : f.data.length &&& 0x03 = f.data.length := by
      simpa [Nat.and_two_pow_sub_one_eq_mod _ 2] using Nat.mod_eq_of_lt hshort
    obtain ⟨hx, ht, hl⟩ := header_short ⟨f.type.toNat, htype'⟩ ⟨f.data.length, hshort⟩
    simp only [hofNat] at hx ht hl
    have hxl' : xidXl (f.header ++ tail) = false := by
      simpa [xidXl, GprsLlcXidField.header, hxl, hmask] using hx
    refine ⟨hxl'.trans (Bool.eq_false_iff.mpr hxl).symm, ?_, ?_⟩
    · simpa [GprsLlcXidField.header, hxl, hmask] using ht
    · rw [xidLen, if_neg (by simp [hxl'])]
      simpa [GprsLlcXidField.header, hxl, hmask] using hl

/-- A field is read back exactly if it fits into the length that the decoder is told. -/
theorem decodeXidField_header (htype : f.type ≤ 31) (hlen : f.data.length ≤ 255) (tail : Bytes)
    (srcLen : ℕ) : decodeXidField (f.header ++ (f.data ++ tail)) srcLen =
      if srcLen < f.size then none else some (f, f.size) := by
  obtain ⟨hxl, ht, hl⟩ := read_header htype hlen (f.data ++ tail)
  have hdrop : (f.header ++ (f.data ++ tail)).drop (1 + f.xl.toNat) = f.data ++ tail := by
    rw [← f.length_header, List.drop_left]
  have hsize : 1 + f.xl.toNat + f.data.length = f.size := by
    rw [GprsLlcXidField.size]
    omega
  simp only [decodeXidField, hxl, ht, hl, hdrop, List.take_left', hsize]
  by_cases hlt : srcLen < f.size
  · rw [if_pos hlt]
    split_ifs with h₀ h₁ h₂
    · rfl
    · rfl
    · rfl
    · -- without data only the header is checked
      rw [GprsLlcXidField.size] at hlt h₂
      cases hx : f.xl with
      | true =>
        have hdata : 3 < f.data.length := by simpa [GprsLlcXidField.xl] using hx
        exact absurd ⟨by omega, hlt⟩ h₂
      | false =>
        rw [hx] at hlt h₂
        simp only [Bool.toNat_false, Nat.add_zero] at hlt h₂
        omega
  · have hpos := f.size_pos
    have hheader : f.xl → 2 ≤ f.size := by
      intro hx
      rw [GprsLlcXidField.size, hx]
      simp
    rw [if_neg hlt, if_neg (by omega), if_neg, if_neg (by omega)]
    rintro ⟨hx, hsrc⟩
    have := hheader hx
    omega

private theorem first_short : ∀ b : Fin 256, (UInt8.ofFin b) >>> 7 &&& 1 = 0 →
    ((UInt8.ofFin b >>> 2 &&& 0x1f) &&& 0x1f) <<< 2 |||
      UInt8.ofNat ((UInt8.ofFin b &&& 0x3).toNat &&& 0x03) = UInt8.ofFin b := by
  decide +kernel

private theorem first_xl : ∀ b : Fin 256, (UInt8.ofFin b) >>> 7 &&& 1 ≠ 0 →
    (0x80 : UInt8) ||| ((UInt8.ofFin b >>> 2 &&& 0x1f) &&& 0x1f) <<< 2 ||| (UInt8.ofFin b &&& 0x3) =
      UInt8.ofFin b := by
  decide +kernel

private theorem extended_len : ∀ (top : Fin 4) (b : Fin 256),
    let len := (UInt8.ofNat top <<< 6 &&& (0xc0 : UInt8) |||
      UInt8.ofFin b >>> 2 &&& (0x3f : UInt8)).toNat
    UInt8.ofNat (len >>> 6 &&& 0x03) = UInt8.ofNat top ∧
      (UInt8.ofNat (len <<< 2 &&& 0xfc) = UInt8.ofFin b ↔ UInt8.ofFin b &&& 0x3 = 0) := by
  decide +kernel

private theorem and_three_lt (b : UInt8) : (b &&& 0x3).toNat < 4 := by
  rw [UInt8.toNat_and]
  exact Nat.lt_succ_of_le Nat.and_le_right

/-- The header that the encoder gives to the field at the start of a message is the one there, up
to the spare bits. -/
theorem header_eq_take_iff {src : Bytes} (hdata : f.data.length = xidLen src)
    (htype : f.type = octet src 0 >>> 2 &&& 0x1f) (hshort : ShortestLength src)
    (hlong : 1 + (xidXl src).toNat ≤ src.length) :
    f.xl = xidXl src ∧ (f.header = src.take (1 + (xidXl src).toNat) ↔ SpareZero src) := by
  cases src with
  | nil => simp at hlong
  | cons b src =>
    cases hxl : xidXl (b :: src) with
    | false =>
      have hb : b >>> 7 &&& 1 = 0 := not_not.mp (of_decide_eq_false hxl)
      have hlen : xidLen (b :: src) = (b &&& 0x3).toNat := by simp [xidLen, hxl]
      have hf : f.xl = false := by
        have := and_three_lt b
        simp only [GprsLlcXidField.xl, hdata, hlen, gt_iff_lt, decide_eq_false_iff_not]
        omega
      refine ⟨hf, iff_of_true ?_ ?_⟩
      · have hfirst := first_short b.toFin
        rw [UInt8.ofFin_toFin] at hfirst
        have hfirst := hfirst hb
        simpa [GprsLlcXidField.header, hf, htype, hdata, hlen] using hfirst
      · intro h
        rw [hxl] at h
        exact absurd h (by simp)
    | true =>
      rw [hxl] at hlong
      cases src with
      | nil => simp at hlong
      | cons b' src =>
        have hb : b >>> 7 &&& 1 ≠ 0 := of_decide_eq_true hxl
        have hlen : xidLen (b :: b' :: src) =
            ((b &&& 0x3) <<< 6 &&& (0xc0 : UInt8) ||| b' >>> 2 &&& (0x3f : UInt8)).toNat := by
          rw [xidLen, if_pos hxl]
          rfl
        have hf : f.xl = true := by
          simpa [GprsLlcXidField.xl, hdata] using hshort hxl
        have hfirst := first_xl b.toFin
        rw [UInt8.ofFin_toFin] at hfirst
        have hfirst := hfirst hb
        obtain ⟨htop, hspare⟩ := extended_len ⟨(b &&& 0x3).toNat, and_three_lt b⟩ b'.toFin
        simp only [UInt8.ofNat_toNat, UInt8.ofFin_toFin, ← hlen] at htop hspare
        refine ⟨hf, ?_⟩
        have hheader : f.header = [b, UInt8.ofNat (xidLen (b :: b' :: src) <<< 2 &&& 0xfc)] := by
          rw [GprsLlcXidField.header, if_pos hf, hdata, htype, htop]
          exact congrArg (· :: _) hfirst
        rw [hheader, SpareZero, hxl]
        simpa using hspare

end Header

/-! ## Encoding and decoding again -/

/-- A field that can be encoded without loss. -/
def GprsLlcXidField.Valid (f : GprsLlcXidField) : Prop := f.type ≤ 31 ∧ f.data.length ≤ 255

/-- The octets that some fields take. -/
def xidSize (fs : List GprsLlcXidField) : ℕ := (fs.map GprsLlcXidField.size).sum

/-- The octets of some fields, one after the other. -/
def xidBytes (fs : List GprsLlcXidField) : Bytes := fs.flatMap fun f ↦ f.header ++ f.data

theorem length_xidBytes (fs : List GprsLlcXidField) : (xidBytes fs).length = xidSize fs := by
  induction fs with
  | nil => rfl
  | cons f fs ih =>
    rw [xidBytes, xidSize] at ih ⊢
    rw [List.flatMap_cons, List.length_append, ih, List.map_cons, List.sum_cons, f.size_eq,
      List.length_append]

/-- Fields that fit are encoded one after the other. -/
theorem compileFields_eq {fs : List GprsLlcXidField} (hvalid : ∀ f ∈ fs, f.type ≤ 31)
    {dstMaxlen : ℕ} (hfits : xidSize fs ≤ dstMaxlen) :
    compileFields dstMaxlen fs = some (xidBytes fs) := by
  induction fs generalizing dstMaxlen with
  | nil => rfl
  | cons f fs ih =>
    rw [xidSize, List.map_cons, List.sum_cons] at hfits
    rw [List.forall_mem_cons] at hvalid
    have henc : encodeXidField dstMaxlen f = some (f.header ++ f.data) := by
      rw [encodeXidField, if_neg (by omega), if_neg (UInt8.not_lt.mpr hvalid.1)]
    have hrest : xidSize fs ≤ dstMaxlen - (f.header ++ f.data).length := by
      rw [List.length_append, ← f.size_eq, xidSize]
      omega
    rw [compileFields, henc, Option.bind_some, ih hvalid.2 hrest]
    rfl

/-- Every field fits into the low eight bits of the length from it to the end of the message. -/
def Readable : List GprsLlcXidField → Prop
  | [] => True
  | f :: fs => f.size ≤ xidSize (f :: fs) % 2 ^ 8 ∧ Readable fs

/-- The decoder reads the fields of an encoded message back, or stops at one. -/
theorem parseLoop_xidBytes {fs : List GprsLlcXidField} (hne : fs ≠ []) (hvalid : ∀ f ∈ fs, f.Valid)
    {maxLoops : ℕ} (hloops : xidSize fs ≤ maxLoops) (acc : List GprsLlcXidField) :
    (Readable fs → parseLoop maxLoops (xidBytes fs) acc = some (fs.reverse ++ acc)) ∧
      (¬ Readable fs → parseLoop maxLoops (xidBytes fs) acc = none) := by
  induction fs generalizing maxLoops acc with
  | nil => exact absurd rfl hne
  | cons f fs ih =>
    rw [List.forall_mem_cons] at hvalid
    have hsize : xidSize (f :: fs) = f.size + xidSize fs := rfl
    have hpos := f.size_pos
    obtain ⟨maxLoops, rfl⟩ : ∃ n, maxLoops = n + 1 := ⟨maxLoops - 1, by omega⟩
    have hbytes : xidBytes (f :: fs) = f.header ++ (f.data ++ xidBytes fs) := by
      rw [xidBytes, List.flatMap_cons, List.append_assoc, xidBytes]
    have hdrop : (xidBytes (f :: fs)).drop f.size = xidBytes fs := by
      rw [hbytes, ← List.append_assoc]
      exact List.drop_left' (by rw [List.length_append, f.size_eq])
    have hdec := decodeXidField_header hvalid.1.1 hvalid.1.2 (xidBytes fs)
      (xidSize (f :: fs) % 2 ^ 8)
    rw [← hbytes, ← length_xidBytes] at hdec
    rw [parseLoop, hdec, length_xidBytes]
    by_cases hlt : xidSize (f :: fs) % 2 ^ 8 < f.size
    · rw [if_pos hlt]
      refine ⟨fun hread ↦ ?_, fun _ ↦ rfl⟩
      exact absurd hread.1 (Nat.not_le.mpr hlt)
    · rw [if_neg hlt]
      simp only [hdrop]
      cases fs with
      | nil => exact ⟨fun _ ↦ rfl, fun hnot ↦ absurd ⟨Nat.not_lt.mp hlt, trivial⟩ hnot⟩
      | cons g fs =>
        have hrest : xidBytes (g :: fs) ≠ [] := by
          rw [← List.length_pos_iff, length_xidBytes]
          exact Nat.lt_of_lt_of_le g.size_pos (Nat.le_add_right _ _)
        rw [if_neg hrest]
        have hloops' : xidSize (g :: fs) ≤ maxLoops := by omega
        obtain ⟨hyes, hno⟩ := ih (by simp) hvalid.2 hloops' (f :: acc)
        constructor
        · intro hread
          rw [hyes hread.2, List.reverse_cons (a := f), List.append_assoc, List.singleton_append]
        · intro hnot
          exact hno fun hread ↦ hnot ⟨Nat.not_lt.mp hlt, hread⟩

/-- The condition in terms of the list: for every field, the fields in front of it follow it in the
message. -/
theorem readable_reverse_iff (fields : List GprsLlcXidField) :
    Readable fields.reverse ↔ ∀ front f back, fields = front ++ f :: back →
      f.size ≤ (f.size + xidSize front) % 2 ^ 8 := by
  induction fields using List.reverseRecOn with
  | nil => simp [Readable]
  | append_singleton fields g ih =>
    have hsum : xidSize (g :: fields.reverse) = g.size + xidSize fields := by
      rw [xidSize, List.map_cons, List.sum_cons, xidSize, List.map_reverse, List.sum_reverse]
    rw [List.reverse_concat, Readable, ih, hsum]
    constructor
    · rintro ⟨hg, hfields⟩ front f back heq
      rcases List.eq_nil_or_concat back with rfl | ⟨back, x, rfl⟩
      · obtain ⟨rfl, hgf⟩ := List.append_inj' heq rfl
        cases hgf
        exact hg
      · rw [List.concat_eq_append, ← List.cons_append, ← List.append_assoc] at heq
        exact hfields front f back (List.append_inj' heq rfl).1
    · intro hall
      refine ⟨hall fields g [] rfl, fun front f back heq ↦ ?_⟩
      exact hall front f (back ++ [g]) (by rw [heq, List.append_assoc, List.cons_append])

/-! ## Decoding and encoding again -/

section Decoded

variable {src : Bytes} {srcLen rc : ℕ} {f : GprsLlcXidField}

/-- What a field that has been read consists of. -/
theorem decodeXidField_some (hdec : decodeXidField src srcLen = some (f, rc)) :
    1 + (xidXl src).toNat ≤ rc ∧ rc ≤ srcLen ∧ rc = 1 + (xidXl src).toNat + xidLen src ∧
      f = ⟨octet src 0 >>> 2 &&& 0x1f, (src.drop (1 + (xidXl src).toNat)).take (xidLen src)⟩ := by
  rw [decodeXidField] at hdec
  split_ifs at hdec with h₀ h₁ h₂
  obtain ⟨rfl, rfl⟩ := Prod.mk.inj (Option.some.inj hdec)
  refine ⟨Nat.le_add_right _ _, ?_, rfl, rfl⟩
  cases hx : xidXl src with
  | false =>
    rw [hx] at h₂
    simp only [Bool.toNat_false] at h₂ ⊢
    omega
  | true =>
    rw [hx] at h₁ h₂
    simp only [Bool.toNat_true, true_and] at h₁ h₂ ⊢
    omega

theorem xidLen_le (src : Bytes) : xidLen src ≤ 255 := by
  rw [xidLen]
  split
  · exact Nat.le_of_lt_succ (UInt8.toNat_lt _)
  · exact Nat.le_of_lt_succ (UInt8.toNat_lt _)

/-- A field in the shortest form takes as many octets as its encoding, and has the octets of its
encoding if the spare bits are zero. -/
theorem decodeXidField_shortest (hdec : decodeXidField src srcLen = some (f, rc))
    (hle : srcLen ≤ src.length) (hshort : ShortestLength src) :
    f.type ≤ 31 ∧ rc = f.size ∧ (f.header ++ f.data = src.take rc ↔ SpareZero src) := by
  obtain ⟨hhead, hrc, hrc', rfl⟩ := decodeXidField_some hdec
  have hdata : ((src.drop (1 + (xidXl src).toNat)).take (xidLen src)).length = xidLen src := by
    rw [List.length_take, List.length_drop]
    omega
  obtain ⟨hxl, hheader⟩ := header_eq_take_iff (f := ⟨_, _⟩) hdata rfl hshort (by omega)
  refine ⟨?_, ?_, ?_⟩
  · exact UInt8.le_iff_toNat_le.mpr (by rw [UInt8.toNat_and]; exact Nat.and_le_right)
  · rw [GprsLlcXidField.size, hdata, hxl]
    omega
  · rw [← hheader, hrc', List.take_add]
    constructor
    · intro heq
      exact (List.append_inj' heq rfl).1
    · intro heq
      rw [heq]

theorem parseLoop_some {maxLoops : ℕ} {acc fields : List GprsLlcXidField}
    (hparse : parseLoop maxLoops src acc = some fields)
    (hshort : ∀ place, FieldStart src place → ShortestLength place) :
    ∃ fs : List GprsLlcXidField, fields = fs.reverse ++ acc ∧ (∀ f ∈ fs, f.type ≤ 31) ∧
      xidSize fs = src.length ∧
      (xidBytes fs = src ↔ ∀ place, FieldStart src place → SpareZero place) := by
  induction maxLoops generalizing src acc with
  | zero => cases hparse
  | succ maxLoops ih =>
    rw [parseLoop] at hparse
    cases hdec : decodeXidField src (src.length % 2 ^ 8) with
    | none =>
      rw [hdec] at hparse
      cases hparse
    | some r =>
      obtain ⟨f, rc⟩ := r
      rw [hdec] at hparse
      obtain ⟨htype, hrc, hspare⟩ := decodeXidField_shortest hdec (Nat.mod_le _ _)
        (hshort src (.here src))
      have hle := (decodeXidField_some hdec).2.1.trans (Nat.mod_le _ _)
      have hlen : (f.header ++ f.data).length = (src.take rc).length := by
        rw [List.length_append, ← f.size_eq, ← hrc, List.length_take, Nat.min_eq_left hle]
      by_cases hrest : src.drop rc = []
      · simp only [hrest, if_true, Option.some.injEq] at hparse
        have hsrc : src.length = rc := Nat.le_antisymm (List.drop_eq_nil_iff.mp hrest) hle
        refine ⟨[f], hparse.symm, by simpa using htype, ?_, ?_⟩
        · rw [hsrc, hrc]
          exact Nat.add_zero _
        · have hbytes : xidBytes [f] = f.header ++ f.data := List.append_nil _
          rw [hbytes, ← List.take_of_length_le (Nat.le_of_eq hsrc), hspare,
            List.take_of_length_le (Nat.le_of_eq hsrc)]
          constructor
          · rintro hzero place (_ | ⟨hf, hne, -⟩)
            · exact hzero
            · rw [hdec] at hf
              cases hf
              exact absurd hrest hne
          · exact fun hall ↦ hall src (.here src)
      · simp only [hrest, if_false] at hparse
        obtain ⟨fs, rfl, htypes, hsize, hbytes⟩ := ih hparse fun place hplace ↦
          hshort place (.later hdec hrest hplace)
        refine ⟨f :: fs, by simp, ?_, ?_, ?_⟩
        · exact List.forall_mem_cons.mpr ⟨htype, htypes⟩
        · have hcons : xidSize (f :: fs) = f.size + xidSize fs := rfl
          rw [hcons, hsize, List.length_drop]
          omega
        · have hcons : xidBytes (f :: fs) = (f.header ++ f.data) ++ xidBytes fs := rfl
          rw [hcons]
          constructor
          · intro heq place hplace
            rw [← List.take_append_drop rc src] at heq
            obtain ⟨hfirst, hothers⟩ := List.append_inj heq hlen
            cases hplace with
            | here => exact hspare.mp hfirst
            | later hf hne hplace =>
              rw [hdec] at hf
              cases hf
              exact hbytes.mp hothers place hplace
          · intro hall
            rw [hspare.mpr (hall src (.here src)),
              hbytes.mpr fun place hplace ↦ hall place (.later hdec hrest hplace),
              List.take_append_drop]

end Decoded

/-! ## The two round trips -/

/-- **LLC-XID messages.** Fields that fit into a buffer are encoded, and read back exactly if every
field fits into the low eight bits of the length from it to the end of the message. A message that
is accepted, and whose fields use the shortest form of the length, is what its fields are encoded
to exactly if its spare bits are zero. -/
theorem gprsLlcXid_roundTrip_iff (dstMaxlen : ℕ) :
    (∀ fields : List GprsLlcXidField, fields ≠ [] →
      (∀ f ∈ fields, f.type ≤ 31 ∧ f.data.length ≤ 255) → xidSize fields ≤ dstMaxlen →
        ∃ msg, gprsLlcCompileXid dstMaxlen fields = some msg ∧
          (gprsLlcParseXid msg = some fields ↔ ∀ front f back, fields = front ++ f :: back →
            f.size ≤ (f.size + xidSize front) % 2 ^ 8)) ∧
    (∀ (msg : Bytes) (fields : List GprsLlcXidField), gprsLlcParseXid msg = some fields →
      msg.length ≤ dstMaxlen → (∀ place, FieldStart msg place → ShortestLength place) →
        (gprsLlcCompileXid dstMaxlen fields = some msg ↔
          ∀ place, FieldStart msg place → SpareZero place)) := by
  constructor
  · intro fields hne hvalid hfits
    have hsize : xidSize fields.reverse = xidSize fields := by
      rw [xidSize, List.map_reverse, List.sum_reverse, xidSize]
    have hvalid' : ∀ f ∈ fields.reverse, f.Valid := fun f hf ↦ hvalid f (List.mem_reverse.mp hf)
    refine ⟨xidBytes fields.reverse, ?_, ?_⟩
    · exact compileFields_eq (fun f hf ↦ (hvalid' f hf).1) (hsize ▸ hfits)
    · rw [← readable_reverse_iff, gprsLlcParseXid, length_xidBytes]
      obtain ⟨hyes, hno⟩ := parseLoop_xidBytes (mt List.reverse_eq_nil_iff.mp hne) hvalid' le_rfl []
      constructor
      · intro hparse
        by_contra hnot
        rw [hno hnot] at hparse
        cases hparse
      · intro hread
        rw [hyes hread, List.reverse_reverse, List.append_nil]
  · intro msg fields hparse hfits hshort
    obtain ⟨fs, rfl, htypes, hsize, hbytes⟩ := parseLoop_some hparse hshort
    rw [gprsLlcCompileXid, List.append_nil, List.reverse_reverse,
      compileFields_eq htypes (hsize ▸ hfits), Option.some.injEq, hbytes]

/-- Four fields, of 0, 5, 3 and 1 octets. -/
def exampleXidFields : List GprsLlcXidField :=
  [⟨1, [0x41]⟩, ⟨2, [0x42, 0x42, 0x42]⟩, ⟨3, [0x43, 0x43, 0x43, 0x43, 0x43]⟩, ⟨4, []⟩]

/-- The four fields are read back, and a message of one field is reproduced. -/
theorem exampleXidFields_roundTrip :
    (∃ msg, gprsLlcCompileXid 1024 exampleXidFields = some msg ∧
      gprsLlcParseXid msg = some exampleXidFields) ∧
    gprsLlcCompileXid 1024 [⟨1, [0x41]⟩] = some [0x05, 0x41] := by
  constructor
  · obtain ⟨msg, hmsg, hiff⟩ := (gprsLlcXid_roundTrip_iff 1024).1 exampleXidFields (by decide)
      (by decide) (by decide)
    refine ⟨msg, hmsg, hiff.mpr ?_⟩
    rw [← readable_reverse_iff]
    exact ⟨by decide, by decide, by decide, by decide, trivial⟩
  · have hplace : ∀ place, FieldStart [0x05, 0x41] place → place = [0x05, 0x41] := by
      rintro place (_ | ⟨hf, hne, -⟩)
      · rfl
      · cases hf
        exact absurd rfl hne
    refine ((gprsLlcXid_roundTrip_iff 1024).2 [0x05, 0x41] _ (by decide) (by decide) ?_).mpr ?_
    · intro place h
      rw [hplace place h]
      intro hxl
      exact absurd hxl (by decide)
    · intro place h
      rw [hplace place h]
      intro hxl
      exact absurd hxl (by decide)

/-- A layer 3 parameter of 254 octets makes a message of 256, of which the decoder is told that
nothing remains. -/
theorem long_xid_message_refused : ¬ ∀ fields : List GprsLlcXidField, fields ≠ [] →
    (∀ f ∈ fields, f.type ≤ 31 ∧ f.data.length ≤ 255) → xidSize fields ≤ 1024 →
      ∃ msg, gprsLlcCompileXid 1024 fields = some msg ∧ gprsLlcParseXid msg = some fields := by
  intro hall
  obtain ⟨msg, hmsg, hparse⟩ := hall [⟨11, List.replicate 254 0⟩] (List.cons_ne_nil _ _)
    (by decide +kernel) (by decide +kernel)
  have hnone : (gprsLlcCompileXid 1024 [⟨11, List.replicate 254 0⟩]).bind gprsLlcParseXid =
      none := by decide +kernel
  rw [hmsg, Option.bind_some, hparse] at hnone
  cases hnone

end OsmoSgsn.Llc
