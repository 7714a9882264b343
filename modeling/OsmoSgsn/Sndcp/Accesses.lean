import OsmoSgsn.Sndcp.InStep

/-!
# What the decoder looks at

The decoder of a message reads octets, and subtracts the octets of the PCOMP or DCOMP values from an
announced length. Here every such step is listed, with the end of what is being decoded: the message
for the head of an element, and the element for everything in its value. A step is inside if it
reads in front of this end, and if it does not subtract more than there is.

Nothing but the first octet of a field is checked against the end of the block, and the length that
a field announces is trusted, so not every step is inside. When they all are is said in terms of the
message: every field that is reached has its head, its values and every parameter that is announced
and follows parameters in their ranges in front of the end of its block.
-/

namespace OsmoSgsn.Sndcp

/-- A step of the decoder. -/
inductive Access
  /-- An octet is read, in front of an end. -/
  | read (pos stop : ℕ)
  /-- Octets are subtracted from an announced length. -/
  | subtract (len octets : ℕ)
  deriving DecidableEq, Repr

/-- The octet is in front of the end, and the length is not exceeded. -/
def Access.Inside : Access → Prop
  | .read pos stop => pos < stop
  | .subtract len octets => octets ≤ len

instance : (a : Access) → Decidable a.Inside
  | .read pos stop => inferInstanceAs (Decidable (pos < stop))
  | .subtract len octets => inferInstanceAs (Decidable (octets ≤ len))

@[simp] theorem Access.inside_read {pos stop : ℕ} : (Access.read pos stop).Inside ↔ pos < stop :=
  Iff.rfl

@[simp] theorem Access.inside_subtract {len octets : ℕ} :
    (Access.subtract len octets).Inside ↔ octets ≤ len := Iff.rfl

/-- Read octets that follow one another. -/
def readOctets (pos n stop : ℕ) : List Access := (List.range' pos n).map (.read · stop)

@[simp] theorem length_readOctets (pos n stop : ℕ) : (readOctets pos n stop).length = n := by
  rw [readOctets, List.length_map, List.length_range']

@[simp] theorem forall_readOctets {pos n stop : ℕ} :
    (∀ a ∈ readOctets pos n stop, a.Inside) ↔ n = 0 ∨ pos + n ≤ stop := by
  simp only [readOctets, List.forall_mem_map, List.mem_range'_1, Access.inside_read]
  constructor
  · intro h
    rcases Nat.eq_zero_or_pos n with rfl | hn
    · exact .inl rfl
    · have := h (pos + n - 1) (by omega)
      omega
  · rintro h i hi
    omega

/-! ## The steps -/

/-- Values of a V.44 field that contradict one another, after those of the SAPIs. One that is not
there is -1. -/
def V44Contradicts (values : List ℤ) : Prop :=
  0 ≤ values.getD 1 (-1) ∧ values.getD 1 (-1) ≠ 0x80 ∧ values.getD 1 (-1) ≠ 0xc0 ∨
    0 ≤ values.getD 5 (-1) ∧ values.getD 5 (-1) < 2 * values.getD 3 (-1) ∨
    0 ≤ values.getD 6 (-1) ∧ values.getD 6 (-1) < 2 * values.getD 4 (-1)

/-- Values that make the decoder give up. -/
def Contradicts (compclass : XidParamType) (algo : ℤ) (values : List ℤ) : Prop :=
  compclass = .dataCompression ∧ algo = 1 ∧ V44Contradicts values

instance (values : List ℤ) : Decidable (V44Contradicts values) :=
  inferInstanceAs (Decidable (_ ∨ _))

instance (compclass : XidParamType) (algo : ℤ) (values : List ℤ) :
    Decidable (Contradicts compclass algo values) :=
  inferInstanceAs (Decidable (_ ∧ _))

section

variable (mem : Mem) (stop : ℕ) (compclass : XidParamType) (lt : Option (List EntityAlgo))

/-- Decode parameters: each one that is announced is read, up to the first one that is out of its
range or contradicts the values before. -/
def rangesAccesses (algo : ℤ) : List ℤ → ℕ → ℕ → List ParamRange → List Access
  | _, _, _, [] => []
  | values, pos, left, r :: rs =>
    if left < r.width then []
    else readOctets pos r.width stop ++
      match r.get mem pos left with
      | none => []
      | some value =>
        if Contradicts compclass algo (values ++ [value]) then []
        else rangesAccesses algo (values ++ [value]) (pos + r.width) (left - r.width) rs

/-- Decode a field. -/
def fieldAccesses (pos srcLen : ℕ) : List Access :=
  if srcLen < 1 then []
  else readOctets pos (headLen mem pos) stop ++
    match compOctets mem pos lt compclass with
    | none => []
    | some n =>
      readOctets (pos + headLen mem pos) n stop ++ .subtract (announced mem pos) n ::
        match algoRanges compclass (fieldAlgo mem pos lt compclass) with
        | none => []
        | some rs => rangesAccesses mem stop compclass (fieldAlgo mem pos lt compclass) []
            (pos + headLen mem pos + n) (((announced mem pos : ℤ) - n) % 2 ^ 32).toNat rs

/-- Decode a block. -/
def blockAccesses (val tagLen : ℕ) : List Access :=
  (blockStarts mem val tagLen lt compclass maxFields 0).flatMap fun start ↦
    fieldAccesses mem (val + tagLen) compclass lt (val + start) (tagLen - start)

/-- Decode the value of an element. That of a version number is read if the caller wants it. -/
def valueAccesses (wantsVersion : Bool) (val tagLen : ℕ) : List Access :=
  if compclass = .versionNumber then if wantsVersion then [.read val (val + tagLen)] else []
  else blockAccesses mem compclass lt val tagLen

/-- Whether the value of an element is accepted. -/
def valueAccepted (val tagLen : ℕ) : Bool :=
  decide (compclass = .versionNumber) ||
    (decodeXidBlock mem val tagLen lt compclass maxFields 0 []).isSome

end

/-- The loop over the elements of a message. `tlv_parse_one` reads the first two octets of an
element, as far as they are there. -/
def elementAccesses (mem : Mem) (srcLen : ℕ) (wantsVersion : Bool) (lt : Option (List EntityAlgo)) :
    ℕ → ℕ → List Access
  | 0, _ => []
  | n + 1, srcPos =>
    readOctets srcPos (min 2 (srcLen - srcPos)) srcLen ++
      match tlvParseOne mem srcPos (srcLen - srcPos) with
      | none => []
      | some (tag, tagLen) =>
        valueAccesses mem tag lt wantsVersion (srcPos + 2) tagLen ++
          if valueAccepted mem tag lt (srcPos + 2) tagLen = true ∧
              2 < srcLen - (srcPos + 2 + tagLen) then
            elementAccesses mem srcLen wantsVersion lt n (srcPos + 2 + tagLen)
          else []

/-- All steps of the decoder on a message, whether it is accepted or not. -/
def gprsSndcpParseXidAccesses (mem : Mem) (srcLen : ℕ) (wantsVersion : Bool)
    (req : Option (List CompField)) : List Access :=
  if srcLen = 0 then []
  else elementAccesses mem srcLen wantsVersion (req.map gprsSndcpFillTable) 3 0

/-! ## Messages that keep them inside -/

section

variable (mem : Mem) (lt : Option (List EntityAlgo)) (compclass : XidParamType) (stop pos : ℕ)

/-- Every parameter that is announced, and follows parameters in their ranges that do not contradict
one another, is in front of the end. -/
def ParamsInside (algo : ℤ) (left : ℕ) (rs : List ParamRange) : Prop :=
  ∀ found r, found ++ [r] <+: rs → AllAt mem pos found →
    ¬ Contradicts compclass algo (readAll mem pos found) →
      totalWidth (found ++ [r]) ≤ left → pos + totalWidth (found ++ [r]) ≤ stop

/-- The head, the values and the parameters of a field are in front of the end, and no more octets
of values are there than are announced. -/
def FieldInside : Prop :=
  pos + headLen mem pos ≤ stop ∧
    ∀ n, compOctets mem pos lt compclass = some n →
      n ≤ announced mem pos ∧ pos + headLen mem pos + n ≤ stop ∧
        ∀ rs, algoRanges compclass (fieldAlgo mem pos lt compclass) = some rs →
          ParamsInside mem compclass stop (pos + headLen mem pos + n)
            (fieldAlgo mem pos lt compclass) (announced mem pos - n) rs

/-- A field that is accepted, and the number of its octets: the longest part of the parameters that
is announced and in their ranges belongs to it, and contains no contradiction. Without a decoder,
everything that is announced belongs to it. -/
def FieldSpan (w : ℕ) : Prop :=
  ∃ n, compOctets mem pos lt compclass = some n ∧
    match algoRanges compclass (fieldAlgo mem pos lt compclass) with
    | none => w = headLen mem pos + n + (announced mem pos - n)
    | some rs => ∃ found,
        Longest mem (pos + headLen mem pos + n) (announced mem pos - n) rs found ∧
        ¬ Contradicts compclass (fieldAlgo mem pos lt compclass)
          (readAll mem (pos + headLen mem pos + n) found) ∧
        w = headLen mem pos + n + totalWidth found

/-- The fields of a block that are reached are inside. The first argument that decreases counts the
fields that are still allowed. -/
def BlockInside : ℕ → ℕ → Prop
  | 0, _ => True
  | n + 1, pos => FieldInside mem lt compclass stop pos ∧
      ∀ w, FieldSpan mem lt compclass pos w → pos + w < stop → BlockInside n (pos + w)

/-- The fields of a block are accepted, and reach its end. -/
def BlockAccepted : ℕ → ℕ → Prop
  | 0, _ => False
  | n + 1, pos =>
    ∃ w, FieldSpan mem lt compclass pos w ∧ (pos + w < stop → BlockAccepted n (pos + w))

end

/-- The elements of a message that are reached are inside: a version number that is wanted has an
octet, and a block that is not empty has its fields inside. -/
def MessageInside (mem : Mem) (srcLen : ℕ) (wantsVersion : Bool) (lt : Option (List EntityAlgo)) :
    ℕ → ℕ → Prop
  | 0, _ => True
  | n + 1, srcPos => ∀ tag tagLen, tlvParseOne mem srcPos (srcLen - srcPos) = some (tag, tagLen) →
      (tag = .versionNumber → wantsVersion = true → 0 < tagLen) ∧
      (tag ≠ .versionNumber → 0 < tagLen →
        BlockInside mem lt tag (srcPos + 2 + tagLen) maxFields (srcPos + 2)) ∧
      ((tag ≠ .versionNumber → 0 < tagLen ∧
          BlockAccepted mem lt tag (srcPos + 2 + tagLen) maxFields (srcPos + 2)) →
        2 < srcLen - (srcPos + 2 + tagLen) →
          MessageInside mem srcLen wantsVersion lt n (srcPos + 2 + tagLen))

/-! ## Parameters -/

section

variable {mem : Mem} {pos left stop : ℕ} {compclass : XidParamType} {algo : ℤ}

theorem getD_append_of_le {values others : List ℤ} {i : ℕ} (h : 0 ≤ values.getD i (-1)) :
    (values ++ others).getD i (-1) = values.getD i (-1) := by
  rcases Nat.lt_or_ge i values.length with hi | hi
  · rw [List.getD_append _ _ _ _ hi]
  · rw [List.getD_eq_default _ _ hi] at h
    exact absurd h (by decide)

/-- A contradiction stays one. -/
theorem Contradicts.append {values : List ℤ} (h : Contradicts compclass algo values)
    (others : List ℤ) : Contradicts compclass algo (values ++ others) := by
  obtain ⟨hclass, halgo, hv44⟩ := h
  refine ⟨hclass, halgo, ?_⟩
  -- The value that is contradicted is behind the one that contradicts it.
  have hbefore {i j : ℕ} (hij : j < i) (hi : 0 ≤ values.getD i (-1)) :
      (values ++ others).getD j (-1) = values.getD j (-1) := by
    have hlt : i < values.length := by
      by_contra hge
      rw [List.getD_eq_default _ _ (not_lt.mp hge)] at hi
      exact absurd hi (by decide)
    exact List.getD_append _ _ _ _ (hij.trans hlt)
  rcases hv44 with ⟨hc0, h80, hcc0⟩ | ⟨h3t, hlt⟩ | ⟨h3r, hlt⟩
  · refine .inl ?_
    rw [getD_append_of_le hc0]
    exact ⟨hc0, h80, hcc0⟩
  · refine .inr (.inl ?_)
    rw [getD_append_of_le h3t, hbefore (by decide) h3t]
    exact ⟨h3t, hlt⟩
  · refine .inr (.inr ?_)
    rw [getD_append_of_le h3r, hbefore (by decide) h3r]
    exact ⟨h3r, hlt⟩

theorem not_contradicts_nil : ¬ Contradicts compclass algo [] := fun h ↦ absurd h.2.2 (by decide)

/-- **The parameters that are read are inside** if every one is that is announced and follows
parameters in their ranges. -/
theorem forall_rangesAccesses {values : List ℤ} (rs : List ParamRange) :
    (∀ a ∈ rangesAccesses mem stop compclass algo values pos left rs, a.Inside) ↔
      ∀ found r, found ++ [r] <+: rs → AllAt mem pos found →
        (found ≠ [] → ¬ Contradicts compclass algo (values ++ readAll mem pos found)) →
          totalWidth (found ++ [r]) ≤ left → pos + totalWidth (found ++ [r]) ≤ stop := by
  induction rs generalizing values pos left with
  | nil =>
    rw [rangesAccesses]
    refine ⟨fun _ found r hprefix ↦ ?_, fun _ ↦ by simp⟩
    exact absurd (List.prefix_nil.mp hprefix) (by simp)
  | cons r rs ih =>
    rw [rangesAccesses]
    by_cases hleft : left < r.width
    · rw [if_pos hleft]
      refine ⟨fun _ found r' hprefix _ _ hlen ↦ ?_, fun _ ↦ by simp⟩
      -- The first parameter is not announced.
      exfalso
      cases found with
      | nil =>
        obtain ⟨rfl, -⟩ := List.cons_prefix_cons.mp hprefix
        simp only [List.nil_append, totalWidth_cons, totalWidth_nil] at hlen
        omega
      | cons r₀ found =>
        obtain ⟨rfl, -⟩ := List.cons_prefix_cons.mp hprefix
        simp only [List.cons_append, totalWidth_cons] at hlen
        omega
    · have hpos := r.width_pos
      rw [if_neg hleft, List.forall_mem_append, forall_readOctets,
        or_iff_right (Nat.pos_iff_ne_zero.mp hpos), r.get_eq]
      have hrest : (∀ a ∈ (match (if r.width ≤ left ∧ r.At mem pos then
            some (r.read mem pos : ℤ) else none) with
          | none => []
          | some value =>
            if Contradicts compclass algo (values ++ [value]) then []
            else rangesAccesses mem stop compclass algo (values ++ [value]) (pos + r.width)
              (left - r.width) rs), a.Inside) ↔
          ∀ found r', found ++ [r'] <+: rs → AllAt mem pos (r :: found) →
            ¬ Contradicts compclass algo (values ++ readAll mem pos (r :: found)) →
              totalWidth (r :: found ++ [r']) ≤ left →
                pos + totalWidth (r :: found ++ [r']) ≤ stop := by
        by_cases hat : r.At mem pos
        · rw [if_pos ⟨not_lt.mp hleft, hat⟩]
          dsimp only
          by_cases hbad : Contradicts compclass algo (values ++ [(r.read mem pos : ℤ)])
          · rw [if_pos hbad]
            refine ⟨fun _ found r' _ _ hgood ↦ absurd ?_ hgood, fun _ ↦ by simp⟩
            have := hbad.append (readAll mem (pos + r.width) found)
            rwa [List.append_assoc] at this
          · rw [if_neg hbad, ih]
            simp only [AllAt, readAll, List.cons_append, totalWidth_cons, List.append_assoc,
              List.nil_append, hat, true_and]
            refine forall_congr' fun found ↦ forall_congr' fun r' ↦ imp_congr_right fun _ ↦
              imp_congr_right fun _ ↦ imp_congr ?_ (imp_congr (by omega) (by omega))
            cases found with
            | nil => simpa [readAll] using hbad
            | cons r₀ found => simp
        · rw [if_neg fun h ↦ hat h.2]
          exact ⟨fun _ found r' _ hall ↦ absurd hall.1 hat, fun _ ↦ by simp⟩
      rw [hrest]
      constructor
      · rintro ⟨hfirst, hothers⟩ found r' hprefix hall hgood hlen
        cases found with
        | nil =>
          obtain ⟨rfl, -⟩ := List.cons_prefix_cons.mp hprefix
          simpa using hfirst
        | cons r₀ found =>
          obtain ⟨rfl, hprefix'⟩ := List.cons_prefix_cons.mp hprefix
          exact hothers found r' hprefix' hall (hgood (by simp)) hlen
      · intro h
        refine ⟨?_, fun found r' hprefix hall hgood hlen ↦ ?_⟩
        · have := h [] r (List.cons_prefix_cons.mpr ⟨rfl, List.nil_prefix⟩) trivial (by simp)
          simp only [List.nil_append, totalWidth_cons, totalWidth_nil] at this
          omega
        · exact h (r :: found) r' (List.cons_prefix_cons.mpr ⟨rfl, hprefix⟩) hall
            (fun _ ↦ hgood) hlen

end

/-! ## Fields -/

section

variable {mem : Mem} {pos srcLen left stop : ℕ} {compclass : XidParamType} {algo : ℤ}
  {lt : Option (List EntityAlgo)}

theorem announced_lt (mem : Mem) (pos : ℕ) : announced mem pos < 2 ^ 8 := (mem _).toNat_lt

/-- What is left for the parameters, where the values are announced. -/
theorem left_eq {n : ℕ} (hn : n ≤ announced mem pos) :
    (((announced mem pos : ℤ) - n) % 2 ^ 32).toNat = announced mem pos - n := by
  have := announced_lt mem pos
  omega

/-- **The steps of a field are inside** exactly if the field is. -/
theorem forall_fieldAccesses (hlen : 1 ≤ srcLen) :
    (∀ a ∈ fieldAccesses mem stop compclass lt pos srcLen, a.Inside) ↔
      FieldInside mem lt compclass stop pos := by
  have hhead : headLen mem pos ≠ 0 := by
    rw [headLen]
    split <;> decide
  rw [fieldAccesses, if_neg (not_lt.mpr hlen), List.forall_mem_append, forall_readOctets,
    or_iff_right hhead, FieldInside]
  refine and_congr_right fun hin ↦ ?_
  cases compOctets mem pos lt compclass with
  | none => simp
  | some n =>
    simp only [Option.some.injEq, forall_eq', List.forall_mem_append, forall_readOctets,
      List.forall_mem_cons, Access.inside_subtract]
    have hvalues :
        (n = 0 ∨ pos + headLen mem pos + n ≤ stop) ↔ pos + headLen mem pos + n ≤ stop := by
      omega
    rw [hvalues, and_left_comm]
    refine and_congr_right fun hn ↦ and_congr_right fun _ ↦ ?_
    rw [left_eq hn]
    cases algoRanges compclass (fieldAlgo mem pos lt compclass) with
    | none => simp
    | some rs =>
      simp only [Option.some.injEq, forall_eq']
      rw [forall_rangesAccesses, ParamsInside]
      simp only [List.nil_append]
      refine forall_congr' fun found ↦ forall_congr' fun r ↦ imp_congr_right fun _ ↦
        imp_congr_right fun _ ↦ imp_congr_left ?_
      constructor
      · intro h
        by_cases hnil : found = []
        · rw [hnil]
          exact not_contradicts_nil
        · exact h hnil
      · exact fun h _ ↦ h

/-- Two longest parts are the same. -/
theorem Longest.unique {rs found found' : List ParamRange} (h : Longest mem pos left rs found)
    (h' : Longest mem pos left rs found') : found = found' := by
  have hwidth : totalWidth found = totalWidth found' :=
    le_antisymm (h'.longest found h.toFound) (h.longest found' h'.toFound)
  have hsame {a b : List ParamRange} (hab : a <+: b) (hw : totalWidth a = totalWidth b) :
      a = b := by
    obtain ⟨c, rfl⟩ := hab
    cases c with
    | nil => exact (List.append_nil a).symm
    | cons r c =>
      have := r.width_pos
      rw [totalWidth_append, totalWidth_cons] at hw
      omega
  rcases List.prefix_or_prefix_of_prefix h.isPrefix h'.isPrefix with hle | hle
  · exact hsame hle hwidth
  · exact (hsame hle hwidth.symm).symm

/-- Values that are not there contradict nothing. -/
theorem v44Contradicts_append_replicate (values : List ℤ) (k : ℕ) :
    V44Contradicts (values ++ List.replicate k (-1)) ↔ V44Contradicts values := by
  have hget (i : ℕ) : (values ++ List.replicate k (-1)).getD i (-1) = values.getD i (-1) := by
    rcases Nat.lt_or_ge i values.length with hi | hi
    · exact List.getD_append _ _ _ _ hi
    · rw [List.getD_append_right _ _ _ _ hi, List.getD_eq_default _ _ hi,
        List.getD_eq_getElem?_getD, List.getElem?_replicate]
      split <;> rfl
  simp only [V44Contradicts, hget]

/-- The values behind the SAPIs. -/
theorem decodeRanges_sapiRange (mem : Mem) (pos left : ℕ) (rs : List ParamRange) :
    ∃ sapis : ℤ, decodeRanges mem pos left (sapiRange :: rs) =
      (sapis :: (decodeSapisAndRanges mem pos left rs).2.1,
        (decodeSapisAndRanges mem pos left rs).2.2) := by
  have hat := sapiRange_at mem pos
  rw [decodeSapisAndRanges, decodePcompApplicableSapis, decodeRanges, sapiRange.get_eq]
  by_cases hleft : left < 2
  · rw [if_pos hleft, if_neg fun h ↦ not_le.mpr hleft h.1]
    exact ⟨-1, rfl⟩
  · rw [if_neg hleft, if_pos ⟨not_lt.mp hleft, hat⟩]
    exact ⟨_, rfl⟩

/-- A V.44 field is refused if its values contradict one another. -/
theorem decodeDcompV44Params_isSome {found : List ParamRange}
    (h : Longest mem pos left (sapiRange :: v44DecodeRanges) found) :
    (decodeDcompV44Params mem pos left).isSome ↔ ¬ V44Contradicts (readAll mem pos found) := by
  obtain ⟨found', hlongest, heq⟩ := decodeRanges_eq mem pos left (sapiRange :: v44DecodeRanges)
  obtain rfl := h.unique hlongest
  obtain ⟨sapis, hsapis⟩ := decodeRanges_sapiRange mem pos left v44DecodeRanges
  have hvalues : readAll mem pos found ++ List.replicate
      ((sapiRange :: v44DecodeRanges).length - found.length) (-1) =
      sapis :: (decodeSapisAndRanges mem pos left v44DecodeRanges).2.1 :=
    (Prod.ext_iff.mp (heq.symm.trans hsapis)).1
  rw [← v44Contradicts_append_replicate _
    ((sapiRange :: v44DecodeRanges).length - found.length), hvalues, decodeDcompV44Params]
  simp only [V44Contradicts, List.getD_cons_succ]
  split_ifs with hc0 h3t h3r
  · simp only [Option.isSome_none, Bool.false_eq_true, false_iff, not_not]
    exact .inl hc0
  · simp only [Option.isSome_none, Bool.false_eq_true, false_iff, not_not]
    exact .inr (.inl h3t)
  · simp only [Option.isSome_none, Bool.false_eq_true, false_iff, not_not]
    exact .inr (.inr h3r)
  · simp only [Option.isSome_some, true_iff]
    rintro (h | h | h)
    · exact hc0 h
    · exact h3t h
    · exact h3r h

/-- Parameters are refused if they contradict one another, and only then. -/
theorem decodeCompParams_isSome (hclass : compclass = .protocolCompression ∨
    compclass = .dataCompression) (hleft : left < 2 ^ 31) :
    (decodeCompParams mem pos left compclass algo).isSome ↔
      ∀ rs found, algoRanges compclass algo = some rs → Longest mem pos left rs found →
        ¬ Contradicts compclass algo (readAll mem pos found) := by
  have hundecoded : (undecoded left).isSome := by
    rw [undecoded, if_pos hleft]
    rfl
  rcases hclass with rfl | rfl
  · have hsome : (decodeCompParams mem pos left .protocolCompression algo).isSome := by
      rw [decodeCompParams, decodePcompParams]
      split_ifs
      · rfl
      · rfl
      · rfl
      · exact hundecoded
    exact ⟨fun _ rs found _ _ hbad ↦ absurd hbad.1 (by decide), fun _ ↦ hsome⟩
  · by_cases hv44 : algo = 1
    · subst hv44
      obtain ⟨found, hlongest, -⟩ := decodeRanges_eq mem pos left (sapiRange :: v44DecodeRanges)
      have hsome : (decodeCompParams mem pos left .dataCompression 1).isSome ↔
          (decodeDcompV44Params mem pos left).isSome := by
        rw [decodeCompParams, decodeDcompParams, if_neg (by decide), if_pos rfl]
        cases decodeDcompV44Params mem pos left with
        | none => rfl
        | some params => rfl
      rw [hsome, decodeDcompV44Params_isSome hlongest]
      constructor
      · rintro h rs found' hrs hfound' hbad
        obtain rfl := Option.some_inj.mp hrs
        exact h (hfound'.unique hlongest ▸ hbad.2.2)
      · exact fun h hbad ↦ h _ found rfl hlongest ⟨rfl, rfl, hbad⟩
    · have hsome : (decodeCompParams mem pos left .dataCompression algo).isSome := by
        rw [decodeCompParams, decodeDcompParams, if_neg hv44]
        split_ifs
        · rfl
        · exact hundecoded
      exact ⟨fun _ rs found _ _ hbad ↦ absurd hbad.2.1 hv44, fun _ ↦ hsome⟩

/-- **The fields that are accepted**, and their octets. -/
theorem exists_decodeCompField_iff (hclass : compclass = .protocolCompression ∨
    compclass = .dataCompression) (hlen : 1 ≤ srcLen)
    (hin : FieldInside mem lt compclass stop pos) {w : ℕ} :
    (∃ f, decodeCompField mem pos srcLen lt compclass = some (f, w)) ↔
      FieldSpan mem lt compclass pos w := by
  constructor
  · rintro ⟨f, hf⟩
    obtain ⟨n, m, hacc⟩ := decodeCompField_accepted hf
    have hn := (hin.2 n hacc.comp).1
    have hparams := hacc.params
    rw [left_eq hn] at hparams
    have hleft : announced mem pos - n < 2 ^ 31 := by
      have := announced_lt mem pos
      omega
    have hcount := decodeCompParams_count hparams
    have hgood := (decodeCompParams_isSome hclass hleft).mp (Option.isSome_of_eq_some hparams)
    refine ⟨n, hacc.comp, ?_⟩
    have hrc := hacc.rc
    cases hranges : algoRanges compclass (fieldAlgo mem pos lt compclass) with
    | none =>
      rw [hranges] at hcount
      dsimp only at hcount ⊢
      omega
    | some rs =>
      rw [hranges] at hcount
      dsimp only at hcount
      obtain ⟨found, hlongest, heq⟩ :=
        decodeRanges_eq mem (pos + headLen mem pos + n) (announced mem pos - n) rs
      rw [heq] at hcount
      exact ⟨found, hlongest, hgood rs found hranges hlongest, by rw [hrc, hcount]⟩
  · rintro ⟨n, hcomp, hspan⟩
    have hn := (hin.2 n hcomp).1
    have hleft : announced mem pos - n < 2 ^ 31 := by
      have := announced_lt mem pos
      omega
    have hsome : (decodeCompParams mem (pos + headLen mem pos + n) (announced mem pos - n) compclass
        (fieldAlgo mem pos lt compclass)).isSome := by
      refine (decodeCompParams_isSome hclass hleft).mpr fun rs found hrs hlongest hbad ↦ ?_
      rw [hrs] at hspan
      obtain ⟨found', hlongest', hgood, -⟩ := hspan
      exact hgood (hlongest.unique hlongest' ▸ hbad)
    obtain ⟨⟨params, m⟩, hparams⟩ := Option.isSome_iff_exists.mp hsome
    have hcount := decodeCompParams_count hparams
    have hw : w = headLen mem pos + n + m := by
      cases hranges : algoRanges compclass (fieldAlgo mem pos lt compclass) with
      | none =>
        rw [hranges] at hcount hspan
        rw [hspan, hcount]
      | some rs =>
        rw [hranges] at hcount hspan
        dsimp only at hcount
        obtain ⟨found, hlongest, -, hw⟩ := hspan
        obtain ⟨found', hlongest', heq⟩ :=
          decodeRanges_eq mem (pos + headLen mem pos + n) (announced mem pos - n) rs
        rw [heq, hlongest'.unique hlongest] at hcount
        rw [hw, hcount]
    rw [compOctets_eq] at hcomp
    obtain ⟨⟨comp, n'⟩, hvalues, rfl⟩ := Option.map_eq_some_iff.mp hcomp
    refine ⟨⟨proposes mem pos, (mem pos).toNat % 32, fieldAlgo mem pos lt compclass, comp,
      params⟩, ?_⟩
    rw [decodeCompField_eq, if_neg (not_lt.mpr hlen), hvalues, Option.bind_some]
    dsimp only at hn hparams hw ⊢
    rw [left_eq hn, hparams, Option.map_some, hw]

/-- The number of octets of a field that is accepted. -/
theorem fieldSpan_iff_eq (hclass : compclass = .protocolCompression ∨
    compclass = .dataCompression) (hlen : 1 ≤ srcLen)
    (hin : FieldInside mem lt compclass stop pos) {f : CompField} {rc w : ℕ}
    (hfield : decodeCompField mem pos srcLen lt compclass = some (f, rc)) :
    FieldSpan mem lt compclass pos w ↔ w = rc := by
  rw [← exists_decodeCompField_iff hclass hlen hin, hfield]
  constructor
  · rintro ⟨f', hf'⟩
    exact (Prod.ext_iff.mp (Option.some_inj.mp hf')).2.symm
  · rintro rfl
    exact ⟨f, rfl⟩

theorem not_fieldSpan (hclass : compclass = .protocolCompression ∨
    compclass = .dataCompression) (hlen : 1 ≤ srcLen)
    (hin : FieldInside mem lt compclass stop pos)
    (hfield : decodeCompField mem pos srcLen lt compclass = none) {w : ℕ} :
    ¬ FieldSpan mem lt compclass pos w := by
  rw [← exists_decodeCompField_iff hclass hlen hin, hfield]
  rintro ⟨f, hf⟩
  exact absurd hf nofun

end

/-! ## Blocks and messages -/

section

variable {mem : Mem} {compclass : XidParamType} {lt : Option (List EntityAlgo)}

/-- **The steps of a block are inside** exactly if its fields are. -/
theorem forall_blockAccesses (hclass : compclass = .protocolCompression ∨
    compclass = .dataCompression) {val tagLen n byteCounter : ℕ} (hlt : byteCounter < tagLen) :
    (∀ a ∈ (blockStarts mem val tagLen lt compclass n byteCounter).flatMap fun start ↦
        fieldAccesses mem (val + tagLen) compclass lt (val + start) (tagLen - start), a.Inside) ↔
      BlockInside mem lt compclass (val + tagLen) n (val + byteCounter) := by
  induction n generalizing byteCounter with
  | zero => simp [blockStarts, BlockInside]
  | succ n ih =>
    have hlen : 1 ≤ tagLen - byteCounter := by omega
    rw [blockStarts, List.flatMap_cons, List.forall_mem_append, forall_fieldAccesses hlen,
      BlockInside]
    refine and_congr_right fun hin ↦ ?_
    cases hfield : decodeCompField mem (val + byteCounter) (tagLen - byteCounter) lt compclass with
    | none =>
      exact ⟨fun _ w hw ↦ absurd hw (not_fieldSpan hclass hlen hin hfield), fun _ ↦ by simp⟩
    | some decoded =>
      obtain ⟨f, rc⟩ := decoded
      have hunique (w : ℕ) := fieldSpan_iff_eq hclass hlen hin hfield (w := w)
      simp only [hunique, forall_eq]
      have hpos : val + byteCounter + rc < val + tagLen ↔ byteCounter + rc < tagLen := by omega
      rw [hpos]
      by_cases hmore : byteCounter + rc < tagLen
      · simp only [hmore, if_true, true_implies]
        rw [ih hmore, Nat.add_assoc]
      · simp [hmore]

/-- A block that is inside is accepted if its fields are. -/
theorem decodeXidBlock_isSome (hclass : compclass = .protocolCompression ∨
    compclass = .dataCompression) {val tagLen n byteCounter : ℕ} (hlt : byteCounter < tagLen)
    (hin : BlockInside mem lt compclass (val + tagLen) n (val + byteCounter))
    (fields : List CompField) :
    (decodeXidBlock mem val tagLen lt compclass n byteCounter fields).isSome ↔
      BlockAccepted mem lt compclass (val + tagLen) n (val + byteCounter) := by
  induction n generalizing byteCounter fields with
  | zero => simp [decodeXidBlock, BlockAccepted]
  | succ n ih =>
    have hlen : 1 ≤ tagLen - byteCounter := by omega
    rw [decodeXidBlock, BlockAccepted]
    cases hfield : decodeCompField mem (val + byteCounter) (tagLen - byteCounter) lt compclass with
    | none =>
      simp only [Option.isSome_none, Bool.false_eq_true, false_iff, not_exists, not_and]
      exact fun w hw ↦ absurd hw (not_fieldSpan hclass hlen hin.1 hfield)
    | some decoded =>
      obtain ⟨f, rc⟩ := decoded
      have hunique (w : ℕ) := fieldSpan_iff_eq hclass hlen hin.1 hfield (w := w)
      simp only [hunique, exists_eq_left]
      have hpos : val + byteCounter + rc < val + tagLen ↔ byteCounter + rc < tagLen := by omega
      rw [hpos]
      by_cases hmore : byteCounter + rc < tagLen
      · have hin' := hin.2 rc ((hunique rc).mpr rfl) (hpos.mpr hmore)
        rw [Nat.add_assoc] at hin'
        simp only [hmore, if_true, true_implies]
        rw [ih hmore hin', Nat.add_assoc]
      · simp [hmore]

/-- A block without octets is refused, and nothing is read. -/
theorem blockAccesses_zero (mem : Mem) (compclass : XidParamType) (lt : Option (List EntityAlgo))
    (val : ℕ) : blockAccesses mem compclass lt val 0 = [] ∧
      decodeXidBlock mem val 0 lt compclass maxFields 0 [] = none := by
  have hfield : decodeCompField mem (val + 0) (0 - 0) lt compclass = none := by
    rw [decodeCompField, if_pos (by decide)]
  constructor
  · rw [blockAccesses, maxFields, blockStarts, hfield]
    simp [fieldAccesses]
  · rw [maxFields, decodeXidBlock, hfield]

theorem tlvParseOne_some {pos bufLen tagLen : ℕ} {tag : XidParamType}
    (h : tlvParseOne mem pos bufLen = some (tag, tagLen)) :
    2 + tagLen ≤ bufLen ∧ (tag = .versionNumber ∨ tag = .dataCompression ∨
      tag = .protocolCompression) := by
  rw [tlvParseOne] at h
  split_ifs at h with hlen hfits h0 h1 h2
  · obtain ⟨rfl, rfl⟩ := Prod.ext_iff.mp (Option.some_inj.mp h)
    exact ⟨by dsimp only; omega, .inl rfl⟩
  · obtain ⟨rfl, rfl⟩ := Prod.ext_iff.mp (Option.some_inj.mp h)
    exact ⟨by dsimp only; omega, .inr (.inl rfl)⟩
  · obtain ⟨rfl, rfl⟩ := Prod.ext_iff.mp (Option.some_inj.mp h)
    exact ⟨by dsimp only; omega, .inr (.inr rfl)⟩

/-- The value of an element. -/
theorem forall_valueAccesses {tag : XidParamType} (htag : tag = .versionNumber ∨
    tag = .dataCompression ∨ tag = .protocolCompression) {wantsVersion : Bool} {val tagLen : ℕ} :
    (∀ a ∈ valueAccesses mem tag lt wantsVersion val tagLen, a.Inside) ↔
      (tag = .versionNumber → wantsVersion = true → 0 < tagLen) ∧
      (tag ≠ .versionNumber → 0 < tagLen →
        BlockInside mem lt tag (val + tagLen) maxFields val) := by
  rw [valueAccesses]
  by_cases hversion : tag = .versionNumber
  · subst hversion
    cases wantsVersion with
    | true => simp
    | false => simp
  · have hclass : tag = .protocolCompression ∨ tag = .dataCompression :=
      (htag.resolve_left hversion).symm
    rw [if_neg hversion]
    rcases Nat.eq_zero_or_pos tagLen with rfl | hpos
    · rw [(blockAccesses_zero mem tag lt val).1]
      simp [hversion]
    · rw [blockAccesses, forall_blockAccesses hclass hpos]
      simp [hversion, hpos]

/-- Whether the value of an element is accepted, where it is inside. -/
theorem valueAccepted_iff {tag : XidParamType} (htag : tag = .versionNumber ∨
    tag = .dataCompression ∨ tag = .protocolCompression) {val tagLen : ℕ}
    (hin : tag ≠ .versionNumber → 0 < tagLen →
      BlockInside mem lt tag (val + tagLen) maxFields val) :
    valueAccepted mem tag lt val tagLen = true ↔
      (tag ≠ .versionNumber → 0 < tagLen ∧
        BlockAccepted mem lt tag (val + tagLen) maxFields val) := by
  rw [valueAccepted, Bool.or_eq_true, decide_eq_true_eq]
  by_cases hversion : tag = .versionNumber
  · simp [hversion]
  · have hclass : tag = .protocolCompression ∨ tag = .dataCompression :=
      (htag.resolve_left hversion).symm
    rw [or_iff_right hversion, forall_prop_of_true hversion]
    rcases Nat.eq_zero_or_pos tagLen with rfl | hpos
    · rw [(blockAccesses_zero mem tag lt val).2]
      simp
    · rw [decodeXidBlock_isSome hclass hpos (hin hversion hpos)]
      simp [hpos]

/-- The elements of a message. -/
theorem forall_elementAccesses {srcLen : ℕ} {wantsVersion : Bool} {n srcPos : ℕ} :
    (∀ a ∈ elementAccesses mem srcLen wantsVersion lt n srcPos, a.Inside) ↔
      MessageInside mem srcLen wantsVersion lt n srcPos := by
  induction n generalizing srcPos with
  | zero => simp [elementAccesses, MessageInside]
  | succ n ih =>
    have hhead : min 2 (srcLen - srcPos) = 0 ∨ srcPos + min 2 (srcLen - srcPos) ≤ srcLen := by omega
    rw [elementAccesses, MessageInside, List.forall_mem_append, forall_readOctets,
      and_iff_right hhead]
    cases htlv : tlvParseOne mem srcPos (srcLen - srcPos) with
    | none => simp
    | some element =>
      obtain ⟨tag, tagLen⟩ := element
      have htag := (tlvParseOne_some htlv).2
      have hvalue : (∀ a ∈ valueAccesses mem tag lt wantsVersion (srcPos + 2) tagLen ++
          (if valueAccepted mem tag lt (srcPos + 2) tagLen = true ∧
              2 < srcLen - (srcPos + 2 + tagLen) then
            elementAccesses mem srcLen wantsVersion lt n (srcPos + 2 + tagLen)
          else []), a.Inside) ↔
          (tag = .versionNumber → wantsVersion = true → 0 < tagLen) ∧
          (tag ≠ .versionNumber → 0 < tagLen →
            BlockInside mem lt tag (srcPos + 2 + tagLen) maxFields (srcPos + 2)) ∧
          ((tag ≠ .versionNumber → 0 < tagLen ∧
              BlockAccepted mem lt tag (srcPos + 2 + tagLen) maxFields (srcPos + 2)) →
            2 < srcLen - (srcPos + 2 + tagLen) →
              MessageInside mem srcLen wantsVersion lt n (srcPos + 2 + tagLen)) := by
        rw [List.forall_mem_append, forall_valueAccesses htag, and_assoc]
        refine and_congr_right fun _ ↦ and_congr_right fun hin ↦ ?_
        rw [← valueAccepted_iff htag hin, ← ih]
        by_cases hmore : valueAccepted mem tag lt (srcPos + 2) tagLen = true ∧
            2 < srcLen - (srcPos + 2 + tagLen)
        · rw [if_pos hmore, forall_prop_of_true hmore.1, forall_prop_of_true hmore.2]
        · rw [if_neg hmore]
          exact ⟨fun _ haccepted hlen ↦ absurd ⟨haccepted, hlen⟩ hmore, fun _ ↦ by simp⟩
      refine ⟨fun h tag' tagLen' heq ↦ ?_, fun h ↦ hvalue.mpr (h tag tagLen rfl)⟩
      obtain ⟨rfl, rfl⟩ := Prod.ext_iff.mp (Option.some_inj.mp heq)
      exact hvalue.mp h

end

/-! ## Ends and numbers of steps -/

/-- The end that a step is held against, if it reads. -/
def Access.HeldAgainst (stop : ℕ) : Access → Prop
  | .read _ stop' => stop' = stop
  | .subtract _ _ => True

theorem heldAgainst_readOctets {pos n stop : ℕ} :
    ∀ a ∈ readOctets pos n stop, a.HeldAgainst stop := by
  intro a ha
  obtain ⟨i, -, rfl⟩ := List.mem_map.mp ha
  rfl

section

variable {mem : Mem} {stop : ℕ} {compclass : XidParamType} {lt : Option (List EntityAlgo)}

theorem heldAgainst_rangesAccesses {algo : ℤ} {values : List ℤ} {pos left : ℕ}
    (rs : List ParamRange) :
    ∀ a ∈ rangesAccesses mem stop compclass algo values pos left rs, a.HeldAgainst stop := by
  induction rs generalizing values pos left with
  | nil => simp [rangesAccesses]
  | cons r rs ih =>
    rw [rangesAccesses]
    split
    · simp
    · refine List.forall_mem_append.mpr ⟨heldAgainst_readOctets, ?_⟩
      split
      · simp
      · split
        · simp
        · exact ih

theorem length_rangesAccesses_le {algo : ℤ} {values : List ℤ} {pos left : ℕ}
    (rs : List ParamRange) :
    (rangesAccesses mem stop compclass algo values pos left rs).length ≤ totalWidth rs := by
  induction rs generalizing values pos left with
  | nil => simp [rangesAccesses]
  | cons r rs ih =>
    rw [rangesAccesses, totalWidth_cons]
    split
    · simp
    · rw [List.length_append, length_readOctets]
      refine Nat.add_le_add_left ?_ _
      split
      · simp
      · split
        · simp
        · exact ih

theorem heldAgainst_fieldAccesses {pos srcLen : ℕ} :
    ∀ a ∈ fieldAccesses mem stop compclass lt pos srcLen, a.HeldAgainst stop := by
  rw [fieldAccesses]
  split
  · simp
  · refine List.forall_mem_append.mpr ⟨heldAgainst_readOctets, ?_⟩
    split
    · simp
    · refine List.forall_mem_append.mpr ⟨heldAgainst_readOctets, ?_⟩
      refine List.forall_mem_cons.mpr ⟨trivial, ?_⟩
      split
      · simp
      · exact heldAgainst_rangesAccesses _

/-- There are few values and few parameters. -/
theorem compOctets_le {pos n : ℕ} (h : compOctets mem pos lt compclass = some n) : n ≤ 3 := by
  have hnum {algo : ℤ} {k : ℕ} (hk : compNum compclass algo = some k) : k ≤ 5 := by
    unfold compNum at hk
    split at hk
    all_goals first
      | obtain rfl := Option.some_inj.mp hk
        decide
      | exact absurd hk nofun
  rw [compOctets] at h
  split at h
  · obtain ⟨k, hk, rfl⟩ := Option.map_eq_some_iff.mp h
    have := hnum hk
    omega
  · exact (Option.some_inj.mp h).symm ▸ Nat.zero_le 3

theorem totalWidth_algoRanges_le {algo : ℤ} {rs : List ParamRange}
    (h : algoRanges compclass algo = some rs) : totalWidth rs ≤ 38 := by
  unfold algoRanges at h
  split at h
  all_goals first
    | obtain rfl := Option.some_inj.mp h
      decide
    | exact absurd h nofun

theorem length_fieldAccesses_le {pos srcLen : ℕ} :
    (fieldAccesses mem stop compclass lt pos srcLen).length ≤ 45 := by
  have hhead : headLen mem pos ≤ 3 := by
    rw [headLen]
    split <;> decide
  rw [fieldAccesses]
  split
  · simp
  · rw [List.length_append, length_readOctets]
    split
    · simp only [List.length_nil]
      omega
    · next n hn =>
      have hvalues := compOctets_le hn
      rw [List.length_append, length_readOctets, List.length_cons]
      split
      · simp only [List.length_nil]
        omega
      · next rs hrs =>
        have hparams : (rangesAccesses mem stop compclass (fieldAlgo mem pos lt compclass) []
            (pos + headLen mem pos + n) (((announced mem pos : ℤ) - n) % 2 ^ 32).toNat
            rs).length ≤ 38 :=
          (length_rangesAccesses_le rs).trans (totalWidth_algoRanges_le hrs)
        omega

theorem length_blockStarts_le {val tagLen n byteCounter : ℕ} :
    (blockStarts mem val tagLen lt compclass n byteCounter).length ≤ n := by
  induction n generalizing byteCounter with
  | zero => simp [blockStarts]
  | succ n ih =>
    rw [blockStarts, List.length_cons]
    refine Nat.succ_le_succ ?_
    split
    · simp
    · split
      · exact ih
      · simp

theorem heldAgainst_valueAccesses {wantsVersion : Bool} {val tagLen : ℕ} :
    ∀ a ∈ valueAccesses mem compclass lt wantsVersion val tagLen, a.HeldAgainst (val + tagLen) := by
  rw [valueAccesses]
  split
  · split
    · simp [Access.HeldAgainst]
    · simp
  · intro a ha
    obtain ⟨start, -, ha⟩ := List.mem_flatMap.mp ha
    exact heldAgainst_fieldAccesses a ha

theorem length_valueAccesses_le {wantsVersion : Bool} {val tagLen : ℕ} :
    (valueAccesses mem compclass lt wantsVersion val tagLen).length ≤ 65 * 45 := by
  rw [valueAccesses]
  split
  · split
    · simp
    · simp
  · rw [blockAccesses, List.length_flatMap]
    refine (List.sum_le_card_nsmul _ 45 fun n hn ↦ ?_).trans ?_
    · obtain ⟨start, -, rfl⟩ := List.mem_map.mp hn
      exact length_fieldAccesses_le
    · rw [List.length_map, smul_eq_mul]
      exact Nat.mul_le_mul_right 45 length_blockStarts_le

/-- Every octet that is read is held against an end within the message. -/
theorem stop_le_of_mem_elementAccesses {srcLen : ℕ} {wantsVersion : Bool} {n srcPos pos stop : ℕ}
    (h : .read pos stop ∈ elementAccesses mem srcLen wantsVersion lt n srcPos) : stop ≤ srcLen := by
  induction n generalizing srcPos with
  | zero => exact absurd h (List.not_mem_nil)
  | succ n ih =>
    rw [elementAccesses] at h
    rcases List.mem_append.mp h with h | h
    · exact (heldAgainst_readOctets _ h).le
    · cases htlv : tlvParseOne mem srcPos (srcLen - srcPos) with
      | none =>
        rw [htlv] at h
        exact absurd h (List.not_mem_nil)
      | some element =>
        obtain ⟨tag, tagLen⟩ := element
        rw [htlv] at h
        rcases List.mem_append.mp h with h | h
        · have hstop : stop = srcPos + 2 + tagLen := heldAgainst_valueAccesses _ h
          have := (tlvParseOne_some htlv).1
          omega
        · split at h
          · exact ih h
          · exact absurd h (List.not_mem_nil)

theorem length_elementAccesses_le {srcLen : ℕ} {wantsVersion : Bool} {n srcPos : ℕ} :
    (elementAccesses mem srcLen wantsVersion lt n srcPos).length ≤ n * 2927 := by
  induction n generalizing srcPos with
  | zero => simp [elementAccesses]
  | succ n ih =>
    rw [elementAccesses, List.length_append, length_readOctets]
    split
    · simp only [List.length_nil]
      omega
    · next tag tagLen htlv =>
      have hvalue : (valueAccesses mem tag lt wantsVersion (srcPos + 2) tagLen).length ≤ 65 * 45 :=
        length_valueAccesses_le
      rw [List.length_append]
      split
      · have := @ih (srcPos + 2 + tagLen)
        omega
      · simp only [List.length_nil]
        omega

end

/-- **The decoder never looks outside** of a message exactly if the elements of the message that are
reached are inside, with everything in them. Whether it does or not, it comes to an end: it takes at
most 8781 steps, and holds every octet against an end within the message. -/
theorem parse_inside_iff (bytes : Bytes) (behind : Mem) (wantsVersion : Bool)
    (req : Option (List CompField)) :
    ((∀ a ∈ gprsSndcpParseXidAccesses (message bytes behind) bytes.length wantsVersion req,
        a.Inside) ↔
      MessageInside (message bytes behind) bytes.length wantsVersion (req.map gprsSndcpFillTable)
        3 0) ∧
    (∀ pos stop, .read pos stop ∈
        gprsSndcpParseXidAccesses (message bytes behind) bytes.length wantsVersion req →
      stop ≤ bytes.length) ∧
    (gprsSndcpParseXidAccesses (message bytes behind) bytes.length wantsVersion
      req).length ≤ 8781 := by
  rw [gprsSndcpParseXidAccesses]
  split
  · next hempty =>
    refine ⟨⟨fun _ ↦ ?_, fun _ ↦ by simp⟩, by simp, by simp⟩
    -- Without octets there is no element.
    rw [hempty, MessageInside]
    intro tag tagLen htlv
    have := (tlvParseOne_some htlv).1
    omega
  · exact ⟨forall_elementAccesses, fun pos stop ↦ stop_le_of_mem_elementAccesses,
      length_elementAccesses_le⟩

/-- A version number and a proposal of RFC 1144 compression. -/
example : ∀ a ∈ gprsSndcpParseXidAccesses (message [0, 1, 0, 2, 7, 0x80, 0, 4, 0x12, 0, 0x20, 7]
    fun _ ↦ 0) 12 true none, a.Inside := by
  decide +kernel

/-- In a block of one octet, the number of the algorithm and the length of the field are behind the
message. -/
theorem short_field_read_behind :
    (.read 3 3) ∈ gprsSndcpParseXidAccesses (message [2, 1, 0x80] fun _ ↦ 0) 3 false none ∧
      ¬ (Access.read 3 3).Inside ∧
      ¬ MessageInside (message [2, 1, 0x80] fun _ ↦ 0) 3 false none 3 0 := by
  have hmem : (.read 3 3) ∈
      gprsSndcpParseXidAccesses (message [2, 1, 0x80] fun _ ↦ 0) 3 false none := by
    decide +kernel
  refine ⟨hmem, by decide, fun hinside ↦ ?_⟩
  have hall := forall_elementAccesses.mpr hinside
  exact absurd (hall _ hmem) (by decide)

end OsmoSgsn.Sndcp
