import OsmoSgsn.Llc.Xid
import OsmoSgsn.Sndcp.XidInd

/-!
# The answer to an LLC-XID command

The fields of a command are echoed, but those of layer 3, which SNDCP answers. Lists are built by
putting each field in front of those before it, and the encoder begins with the last: the decoder
turns the order of the fields around, the pass that echoes turns it around again, and so does the
encoder. Three are one too many. The echoed fields come back in the order opposite to that of the
command, and a RESET, which has to be the first field, comes back behind them.

The answers of SNDCP follow, in the order in which SNDCP was asked, which begins with the last field
of the command. What SNDCP answers is a parameter here, up to the last section.
-/

namespace OsmoSgsn.Llc

/-- `GPRS_LLC_XID_T_L3_PAR`: a field for layer 3. -/
def xidL3Par : UInt8 := 11

/-! ## The response -/

section

universe u

variable {σ : Type u} {ε : Type u} (xidInd : σ → Bytes → Except ε (σ × Option Bytes))

/-- The first pass: echo the fields that are not for layer 3. -/
def echoFields (fields : List GprsLlcXidField) : List GprsLlcXidField :=
  fields.foldl (fun response f ↦ if f.type ≠ xidL3Par then f :: response else response) []

/-- The second pass: hand the other fields to SNDCP. One that it refuses is left out. -/
def forwardFields : σ → List GprsLlcXidField → List GprsLlcXidField →
    Except ε (σ × List GprsLlcXidField)
  | s, [], response => .ok (s, response)
  | s, f :: fields, response =>
    if f.type = xidL3Par then
      match xidInd s f.data with
      | .error e => .error e
      | .ok (s, some data) => forwardFields s fields (⟨xidL3Par, data⟩ :: response)
      | .ok (s, none) => forwardFields s fields response
    else forwardFields s fields response

/-- Process a command and generate a response, in a buffer of a size. -/
def gprsLlcProcessXidInd (maxlen : ℕ) (s : σ) (request : Bytes) : Except ε (σ × Option Bytes) :=
  match gprsLlcParseXid request with
  | none => .ok (s, none)
  | some fields =>
    match forwardFields xidInd s fields (echoFields fields) with
    | .error e => .error e
    | .ok (s, response) => .ok (s, gprsLlcCompileXid maxlen response)

/-! ## What it should be -/

/-- The fields of a command that are not for layer 3, in the order of the message. -/
def ownFields (fields : List GprsLlcXidField) : List GprsLlcXidField :=
  fields.reverse.filter (·.type ≠ xidL3Par)

/-- What SNDCP answers to the others, in the order in which it is asked. -/
def l3Answers : σ → List GprsLlcXidField → Except ε (σ × List Bytes)
  | s, [] => .ok (s, [])
  | s, f :: fields =>
    if f.type = xidL3Par then
      match xidInd s f.data with
      | .error e => .error e
      | .ok (s, some data) => (l3Answers s fields).map fun (s, answers) ↦ (s, data :: answers)
      | .ok (s, none) => l3Answers s fields
    else l3Answers s fields

/-- The fields that a response should have: those of the command, and then the answers. -/
def mirroredFields (fields : List GprsLlcXidField) (answers : List Bytes) : List GprsLlcXidField :=
  ownFields fields ++ answers.map (⟨xidL3Par, ·⟩)

/-- The response, when it is parsed again, has these fields, in this order. The parser returns a
list with the last field of a message in front. -/
def Mirrors (maxlen : ℕ) (s : σ) (request : Bytes) (fields : List GprsLlcXidField)
    (answers : List Bytes) : Prop :=
  ∃ s' response, gprsLlcProcessXidInd xidInd maxlen s request = .ok (s', some response) ∧
    gprsLlcParseXid response = some (mirroredFields fields answers).reverse

/-! ## What it is -/

variable {xidInd}

theorem echoFields_eq (fields : List GprsLlcXidField) : echoFields fields = ownFields fields := by
  unfold echoFields ownFields
  rw [← List.foldr_reverse]
  induction fields.reverse with
  | nil => rfl
  | cons f fields ih =>
    rw [List.foldr_cons, ih, List.filter_cons]
    by_cases hf : f.type = xidL3Par <;> simp [hf]

theorem forwardFields_eq {s s' : σ} {fields : List GprsLlcXidField} {answers : List Bytes}
    (h : l3Answers xidInd s fields = .ok (s', answers)) (response : List GprsLlcXidField) :
    forwardFields xidInd s fields response =
      .ok (s', (answers.map (⟨xidL3Par, ·⟩)).reverse ++ response) := by
  induction fields generalizing s answers response with
  | nil =>
    obtain ⟨rfl, rfl⟩ := Prod.mk.inj (Except.ok.inj h)
    rfl
  | cons f fields ih =>
    unfold l3Answers at h
    unfold forwardFields
    split at h
    · rename_i hl3
      rw [if_pos hl3]
      cases hind : xidInd s f.data with
      | error e => rw [hind] at h; cases h
      | ok res =>
        obtain ⟨s₁, _ | data⟩ := res
        · rw [hind] at h
          exact ih h response
        · rw [hind] at h
          dsimp only at h ⊢
          cases hrest : l3Answers xidInd s₁ fields with
          | error e => rw [hrest] at h; cases h
          | ok rest =>
            rw [hrest] at h
            obtain ⟨rfl, rfl⟩ := Prod.mk.inj (Except.ok.inj h)
            rw [ih hrest, List.map_cons, List.reverse_cons, List.append_assoc,
              List.singleton_append]
    · rename_i hl3
      rw [if_neg hl3]
      exact ih h response

/-- The fields of the response, in the order in which they are written. -/
theorem gprsLlcProcessXidInd_eq {maxlen : ℕ} {s s' : σ} {request : Bytes}
    {fields : List GprsLlcXidField} {answers : List Bytes}
    (hparse : gprsLlcParseXid request = some fields)
    (hanswers : l3Answers xidInd s fields = .ok (s', answers)) :
    gprsLlcProcessXidInd xidInd maxlen s request = .ok (s', compileFields maxlen
      ((ownFields fields).reverse ++ answers.map (⟨xidL3Par, ·⟩))) := by
  unfold gprsLlcProcessXidInd
  rw [hparse]
  dsimp only
  rw [echoFields_eq, forwardFields_eq hanswers]
  dsimp only
  rw [gprsLlcCompileXid, List.reverse_append, List.reverse_reverse]

/-- Every field that is parsed can be encoded without loss. -/
theorem parseLoop_valid {maxLoops : ℕ} {src : Bytes} {acc fields : List GprsLlcXidField}
    (hparse : parseLoop maxLoops src acc = some fields) (hacc : ∀ f ∈ acc, f.Valid) :
    ∀ f ∈ fields, f.Valid := by
  induction maxLoops generalizing src acc with
  | zero => cases hparse
  | succ maxLoops ih =>
    rw [parseLoop] at hparse
    cases hdec : decodeXidField src (src.length % 2 ^ 8) with
    | none => rw [hdec] at hparse; cases hparse
    | some r =>
      obtain ⟨f, rc⟩ := r
      rw [hdec] at hparse
      have hf : f.Valid := by
        obtain ⟨-, -, -, rfl⟩ := decodeXidField_some hdec
        refine ⟨?_, ?_⟩
        · exact UInt8.le_iff_toNat_le.mpr (by rw [UInt8.toNat_and]; exact Nat.and_le_right)
        · exact (List.length_take_le _ _).trans (xidLen_le src)
      have hacc' : ∀ g ∈ f :: acc, g.Valid := List.forall_mem_cons.mpr ⟨hf, hacc⟩
      dsimp only at hparse
      split at hparse
      · obtain rfl := Option.some.inj hparse
        exact hacc'
      · exact ih hparse hacc'

theorem gprsLlcParseXid_valid {src : Bytes} {fields : List GprsLlcXidField}
    (hparse : gprsLlcParseXid src = some fields) : ∀ f ∈ fields, f.Valid :=
  parseLoop_valid hparse fun _ hf ↦ (List.not_mem_nil hf).elim

/-- What has been encoded has fitted. -/
theorem compileFields_some {fs : List GprsLlcXidField} {dstMaxlen : ℕ} {bytes : Bytes}
    (h : compileFields dstMaxlen fs = some bytes) :
    bytes = xidBytes fs ∧ xidSize fs ≤ dstMaxlen := by
  induction fs generalizing dstMaxlen bytes with
  | nil =>
    obtain rfl := Option.some.inj h
    exact ⟨rfl, Nat.zero_le _⟩
  | cons f fs ih =>
    rw [compileFields] at h
    obtain ⟨first, hfirst, hothers⟩ := Option.bind_eq_some_iff.mp h
    obtain ⟨rest, hrest, rfl⟩ := Option.map_eq_some_iff.mp hothers
    rw [encodeXidField] at hfirst
    split_ifs at hfirst with hfits
    obtain rfl := Option.some.inj hfirst
    obtain ⟨rfl, hsize⟩ := ih hrest
    have hsize' : xidSize (f :: fs) = f.size + xidSize fs := rfl
    rw [List.length_append, ← f.size_eq] at hsize
    exact ⟨rfl, by omega⟩

theorem ownFields_valid {src : Bytes} {fields : List GprsLlcXidField}
    (hparse : gprsLlcParseXid src = some fields) : ∀ f ∈ ownFields fields, f.Valid := by
  intro f hf
  exact gprsLlcParseXid_valid hparse f (List.mem_reverse.mp (List.mem_filter.mp hf).1)

theorem xidSize_append (fs gs : List GprsLlcXidField) :
    xidSize (fs ++ gs) = xidSize fs + xidSize gs := by
  rw [xidSize, List.map_append, List.sum_append, xidSize, xidSize]

theorem xidSize_reverse (fs : List GprsLlcXidField) : xidSize fs.reverse = xidSize fs := by
  rw [xidSize, List.map_reverse, List.sum_reverse, xidSize]

/-- What a response needs to be read at all: fields, room for them, lengths of eight bits, and that
every field fits into the low eight bits of the length from it to the end. -/
structure CanBeRead (maxlen : ℕ) (fields : List GprsLlcXidField) (answers : List Bytes) : Prop where
  nonempty : mirroredFields fields answers ≠ []
  fits : xidSize (mirroredFields fields answers) ≤ maxlen
  short : ∀ data ∈ answers, data.length ≤ 255
  readable : Readable (mirroredFields fields answers)

/-- **The response mirrors the command** exactly if it can be read and the fields that are echoed
are the same in both directions. -/
theorem mirrors_iff {maxlen : ℕ} {s s' : σ} {request : Bytes} {fields : List GprsLlcXidField}
    {answers : List Bytes} (hparse : gprsLlcParseXid request = some fields)
    (hanswers : l3Answers xidInd s fields = .ok (s', answers)) :
    Mirrors xidInd maxlen s request fields answers ↔
      (ownFields fields).reverse = ownFields fields ∧ CanBeRead maxlen fields answers := by
  have hown := ownFields_valid hparse
  set written := (ownFields fields).reverse ++ answers.map (⟨xidL3Par, ·⟩) with hwritten
  have hsize : xidSize written = xidSize (mirroredFields fields answers) := by
    rw [hwritten, mirroredFields, xidSize_append, xidSize_append, xidSize_reverse]
  have hvalid (hshort : ∀ data ∈ answers, data.length ≤ 255) : ∀ f ∈ written, f.Valid := by
    intro f hf
    rcases List.mem_append.mp hf with hf | hf
    · exact hown f (List.mem_reverse.mp hf)
    · obtain ⟨data, hdata, rfl⟩ := List.mem_map.mp hf
      exact ⟨show xidL3Par ≤ 31 by decide, hshort data hdata⟩
  unfold Mirrors
  simp only [gprsLlcProcessXidInd_eq hparse hanswers, Except.ok.injEq, Prod.mk.injEq]
  constructor
  · rintro ⟨_, response, ⟨-, hcompile⟩, hagain⟩
    obtain ⟨rfl, hfits⟩ := compileFields_some hcompile
    -- a parsed field has at most 255 octets
    have hshort : ∀ data ∈ answers, data.length ≤ 255 := by
      intro data hdata
      refine (gprsLlcParseXid_valid hagain ⟨xidL3Par, data⟩ ?_).2
      rw [List.mem_reverse]
      exact List.mem_append_right _ (List.mem_map_of_mem hdata)
    have hne : written ≠ [] := by
      intro hnil
      rw [← hwritten, hnil] at hagain
      cases hagain
    obtain ⟨hyes, hno⟩ := parseLoop_xidBytes hne (hvalid hshort) le_rfl []
    rw [← hwritten, gprsLlcParseXid, length_xidBytes] at hagain
    have hread : Readable written := by
      by_contra hnot
      rw [hno hnot] at hagain
      cases hagain
    have heq : written = mirroredFields fields answers := by
      rw [hyes hread, List.append_nil, Option.some.injEq] at hagain
      exact List.reverse_injective hagain
    refine ⟨List.append_cancel_right heq, heq ▸ hne, hsize ▸ hfits, hshort, heq ▸ hread⟩
  · rintro ⟨hsame, hread⟩
    have heq : written = mirroredFields fields answers := by
      rw [hwritten, hsame, mirroredFields]
    have hvalid' := hvalid hread.short
    rw [heq] at hvalid'
    rw [← hwritten, heq]
    refine ⟨s', xidBytes (mirroredFields fields answers), ⟨rfl, ?_⟩, ?_⟩
    · exact compileFields_eq (fun f hf ↦ (hvalid' f hf).1) hread.fits
    · rw [gprsLlcParseXid, length_xidBytes,
        (parseLoop_xidBytes hread.nonempty hvalid' le_rfl []).1 hread.readable, List.append_nil]

end

/-! ## With the answers of SNDCP -/

open Sndcp in
/-- `sndcp_sn_xid_ind`, as it looks from here: the data of the response, if it returns 0. The
response has a buffer of the size of the indication; what is written does not always fill its
length. -/
def sndcpAnswer (cfg : XidCfg) (behind behindResponse : Mem) (comp : LlmeComp) (data : Bytes) :
    Except XidFailure (LlmeComp × Option Bytes) :=
  match sndcpSnXidInd cfg comp (message data behind) data.length with
  | .error e => .error e
  | .ok res =>
    match res.rc with
    | .error _ => .ok (res.comp, none)
    | .ok () => .ok (res.comp, some ((List.range res.response.rc).map fun i ↦
        if i < res.response.written.length then octet res.response.written i
        else if i < data.length then 0
        else behindResponse i))

section

variable (cfg : Sndcp.XidCfg) (behind behindResponse : Sndcp.Mem) (comp : Sndcp.LlmeComp)

/-- **The answer to a command.** For every command that is accepted, and whatever SNDCP answers: the
response mirrors the command exactly if it can be read, and the fields that are not for layer 3 are
the same in both directions. -/
theorem response_mirrors_iff (maxlen : ℕ) {comp' : Sndcp.LlmeComp} {request : Bytes}
    {fields : List GprsLlcXidField} {answers : List Bytes}
    (hparse : gprsLlcParseXid request = some fields)
    (hanswers : l3Answers (sndcpAnswer cfg behind behindResponse) comp fields =
      .ok (comp', answers)) :
    Mirrors (sndcpAnswer cfg behind behindResponse) maxlen comp request fields answers ↔
      (ownFields fields).reverse = ownFields fields ∧ CanBeRead maxlen fields answers :=
  mirrors_iff hparse hanswers

end

/-- A command of one field and an empty one for layer 3. -/
theorem response_mirrors_oneField :
    Mirrors (sndcpAnswer ⟨true, true⟩ (fun _ ↦ 0) fun _ ↦ 0) 1024 ⟨[], []⟩ [0x05, 0x41, 0x2c]
      [⟨11, []⟩, ⟨1, [0x41]⟩] [[]] := by
  have hanswers : l3Answers (sndcpAnswer ⟨true, true⟩ (fun _ ↦ 0) fun _ ↦ 0) ⟨[], []⟩
      [⟨11, []⟩, ⟨1, [0x41]⟩] = .ok (⟨[], []⟩, [[]]) := rfl
  refine (response_mirrors_iff _ _ _ _ 1024 rfl hanswers).mpr ⟨by decide, ?_⟩
  exact ⟨by decide, by decide, by decide, by decide, by decide, trivial⟩

/-- A command that begins with RESET and goes on with N201-U: in the response, RESET is the last. -/
theorem reset_comes_last :
    gprsLlcProcessXidInd (sndcpAnswer ⟨true, true⟩ (fun _ ↦ 0) fun _ ↦ 0) 1024 ⟨[], []⟩
        [0x30, 0x16, 0x01, 0xf4] = .ok (⟨[], []⟩, some [0x16, 0x01, 0xf4, 0x30]) ∧
      ¬ Mirrors (sndcpAnswer ⟨true, true⟩ (fun _ ↦ 0) fun _ ↦ 0) 1024 ⟨[], []⟩
        [0x30, 0x16, 0x01, 0xf4] [⟨5, [0x01, 0xf4]⟩, ⟨12, []⟩] [] := by
  have hrun : gprsLlcProcessXidInd (sndcpAnswer ⟨true, true⟩ (fun _ ↦ 0) fun _ ↦ 0) 1024 ⟨[], []⟩
      [0x30, 0x16, 0x01, 0xf4] = .ok (⟨[], []⟩, some [0x16, 0x01, 0xf4, 0x30]) := rfl
  refine ⟨hrun, ?_⟩
  rintro ⟨comp, response, hok, hagain⟩
  rw [hrun] at hok
  obtain ⟨-, hresponse⟩ := Prod.mk.inj (Except.ok.inj hok)
  obtain rfl := Option.some.inj hresponse
  exact absurd hagain (by decide)

end OsmoSgsn.Llc
