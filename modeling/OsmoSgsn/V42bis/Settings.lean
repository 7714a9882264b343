import OsmoSgsn.Library.Results
import OsmoSgsn.V42bis.Codec

/-!
# What was negotiated stays

The parameters that both ends agreed on are set when a state is initialised. Whatever is compressed
or decompressed after that, be it what the other end sent or not, leaves them as they are.
-/

namespace OsmoSgsn.V42bis

open Except

/-- The parameters that were negotiated. -/
def CompState.settings (s : CompState) : ℕ × ℕ × ℕ := (s.p0, s.n2, s.n7)

/-- The parameters are the same. -/
def Kept (s s' : CompState) : Prop := s'.settings = s.settings

section Output

variable {s s' s'' : CompState}

theorem Kept.refl (s : CompState) : Kept s s := rfl

theorem Kept.trans (h : Kept s s') (h' : Kept s' s'') : Kept s s'' := Eq.trans h' h

theorem kept_pushOctet (s : CompState) (o : UInt8) : Kept s (pushOctet s o) := by
  unfold pushOctet
  dsimp only
  split
  · exact Kept.refl s
  · exact Kept.refl s

theorem kept_pushChunks (fuel : ℕ) (s : CompState) (buf : Bytes) :
    Kept s (pushChunks fuel s buf) := by
  induction fuel generalizing s buf with
  | zero => exact Kept.refl s
  | succ fuel ih =>
    rw [pushChunks]
    split
    · exact ih _ _
    · exact Kept.refl s

theorem kept_pushBits (s : CompState) : Kept s (pushBits s) :=
  kept_pushOctet s (.ofNat s.bitBuffer)

theorem kept_drainBits (s : CompState) : Kept s (drainBits s) := by
  unfold drainBits
  generalize s.bitCount / 8 = n
  induction n with
  | zero => exact Kept.refl s
  | succ n ih =>
    rw [Function.iterate_succ_apply']
    exact ih.trans (kept_pushBits _)

theorem kept_pushCompressedCode (s : CompState) (code : ℕ) :
    Kept s (pushCompressedCode s code) := kept_drainBits _

theorem kept_pushOctetAlignment (s : CompState) : Kept s (pushOctetAlignment s) := by
  unfold pushOctetAlignment
  split
  · exact kept_drainBits _
  · exact Kept.refl s

theorem kept_flushOctets (s : CompState) : Kept s (flushOctets s) := rfl

theorem kept_sendString (s : CompState) : Kept s (sendString s) :=
  kept_pushChunks (s.string.length + 2) s s.string

theorem kept_sendTransparent (s : CompState) (o : UInt8) : Kept s (sendTransparent s o) := by
  unfold sendTransparent
  dsimp only
  split
  · exact (kept_pushOctet s o).trans (kept_pushOctet _ eid)
  · exact kept_pushOctet s o

theorem kept_allowEscape (s : CompState) (o : UInt8) : Kept s (allowEscape s o) := by
  unfold allowEscape
  split
  · exact Kept.refl s
  · exact Kept.refl s

theorem kept_foldl {f : CompState → UInt8 → CompState} (hf : ∀ s o, Kept s (f s o)) (w : Bytes)
    (s : CompState) : Kept s (w.foldl f s) := by
  induction w generalizing s with
  | nil => exact Kept.refl s
  | cons o w ih => exact (hf s o).trans (ih (f s o))

end Output

/-! ## The dictionary -/

section Dictionary

theorem ensures_detach (t : Dictionary) (next : ℕ) :
    Ensures (fun t' ↦ t'.n2 = t.n2) (detach t next) := by
  unfold detach
  dsimp only
  split_ifs
  · exact ensures_ok.mpr rfl
  · exact ensures_ok.mpr rfl
  · exact (ensures_true _).bind fun _ _ ↦ ensures_pure.mpr rfl

theorem ensures_addOctetToDictionary (t : Dictionary) (u : ℕ) (o : UInt8) :
    Ensures (fun r ↦ r.2.n2 = t.n2) (addOctetToDictionary t u o) := by
  unfold addOctetToDictionary
  refine (ensures_true _).bind fun next _ ↦ ?_
  refine (ensures_detach _ next).bind fun t' ht' ↦ ?_
  exact ensures_pure.mpr ht'

/-- A new table has room for as many codewords. -/
theorem kept_toDictionary (s : CompState) {t : Dictionary} (h : t.n2 = s.n2) :
    Kept s { s with toDictionary := t } := by
  unfold Kept CompState.settings
  rw [← h]

theorem ensures_updateDictionary (s : CompState) (o : UInt8) :
    Ensures (Kept s) (updateDictionary s o) := by
  unfold updateDictionary
  split
  · exact ensures_ok.mpr (Kept.refl s)
  · refine (ensures_true _).bind fun r _ ↦ ?_
    split
    · refine (ensures_addOctetToDictionary _ _ o).bind fun a ha ↦ ?_
      exact ensures_pure.mpr (kept_toDictionary s ha)
    · exact ensures_pure.mpr (Kept.refl s)

end Dictionary

/-! ## Compressing -/

section Compressing

theorem ensures_stepUp (code fuel : ℕ) (s : CompState) : Ensures (Kept s) (stepUp code fuel s) := by
  induction fuel generalizing s with
  | zero => exact ensures_error _
  | succ fuel ih =>
    rw [stepUp]
    split
    · exact (ih _).mono fun s' hs' ↦ (kept_pushCompressedCode s stepup).trans hs'
    · exact ensures_ok.mpr (Kept.refl s)

theorem ensures_sendEncodedData (s : CompState) (code : ℕ) :
    Ensures (Kept s) (sendEncodedData s code) := by
  unfold sendEncodedData
  dsimp only
  split
  · exact ensures_pure.mpr (kept_foldl kept_sendTransparent s.string _)
  · have hescapes := kept_foldl kept_allowEscape s.string { s with
      compressionPerformance := s.performance }
    refine (ensures_stepUp code 17 _).bind fun s' hs' ↦ ensures_pure.mpr ?_
    exact Kept.trans (hescapes.trans hs') (kept_pushCompressedCode s' code)

theorem ensures_sendMatched (s : CompState) : Ensures (Kept s) (sendMatched s) := by
  unfold sendMatched
  split
  · exact ensures_ok.mpr (Kept.refl s)
  · exact (ensures_sendEncodedData _ _).bind fun s' hs' ↦ ensures_pure.mpr hs'

theorem ensures_goCompressed (s : CompState) : Ensures (Kept s) (goCompressed s) := by
  unfold goCompressed
  split
  · refine (ensures_sendMatched s).bind fun s' hs' ↦ ensures_pure.mpr ?_
    exact hs'.trans ((kept_pushOctet s' s'.escapeCode).trans (kept_pushOctet _ ecm))
  · exact ensures_ok.mpr (Kept.refl s)

theorem ensures_goTransparent (s : CompState) : Ensures (Kept s) (goTransparent s) := by
  unfold goTransparent
  split
  · exact ensures_ok.mpr (Kept.refl s)
  · refine (ensures_sendMatched s).bind fun s' hs' ↦ ensures_pure.mpr ?_
    have hetm := (kept_pushCompressedCode { s' with lastAdded := 0 } etm).trans
      (kept_pushOctetAlignment _)
    exact hs'.trans hetm

theorem ensures_monitorForModeChange (s : CompState) :
    Ensures (Kept s) (monitorForModeChange s) := by
  unfold monitorForModeChange
  split
  · split_ifs
    · exact ensures_goCompressed s
    · exact ensures_ok.mpr (Kept.refl s)
    · exact ensures_goTransparent s
    · exact ensures_ok.mpr (Kept.refl s)
  · split_ifs
    · exact ensures_goCompressed s
    · exact ensures_ok.mpr (Kept.refl s)
  · split_ifs
    · exact ensures_ok.mpr (Kept.refl s)
    · exact ensures_goTransparent s

theorem ensures_matchString (buf : Bytes) (s : CompState) :
    Ensures (fun r ↦ Kept s r.1) (matchString s buf) := by
  induction buf generalizing s with
  | nil => exact ensures_ok.mpr (Kept.refl s)
  | cons o buf ih =>
    rw [matchString]
    refine (ensures_true _).bind fun code _ ↦ ?_
    split_ifs
    · exact (ensures_sendEncodedData _ _).bind fun s' hs' ↦ ensures_pure.mpr hs'
    · exact (ensures_sendEncodedData _ _).bind fun s' hs' ↦ ensures_pure.mpr hs'
    · dsimp only
      split_ifs
      · exact (ensures_sendEncodedData _ _).bind fun s' hs' ↦ ensures_pure.mpr hs'
      · exact ih _

theorem ensures_compressLoop (fuel : ℕ) (s : CompState) (buf : Bytes) :
    Ensures (Kept s) (compressLoop fuel s buf) := by
  induction fuel generalizing s buf with
  | zero =>
    cases buf with
    | nil => exact ensures_ok.mpr (Kept.refl s)
    | cons o buf => exact ensures_error _
  | succ fuel ih =>
    cases buf with
    | nil => exact ensures_ok.mpr (Kept.refl s)
    | cons o buf =>
      rw [compressLoop]
      refine (ensures_updateDictionary s o).bind fun s₁ h₁ ↦ ?_
      refine (ensures_matchString (o :: buf) s₁).bind fun r h₂ ↦ ?_
      refine (ensures_monitorForModeChange r.1).bind fun s₃ h₃ ↦ ?_
      exact (ih s₃ r.2).mono fun s' hs' ↦ ((h₁.trans h₂).trans h₃).trans hs'

/-- **Compressing keeps what was negotiated.** -/
theorem ensures_v42bisCompress (s : CompState) (buf : Bytes) :
    Ensures (Kept s) (v42bisCompress s buf) := by
  unfold v42bisCompress
  split
  · exact ensures_ok.mpr (kept_pushChunks _ s buf)
  · exact ensures_compressLoop _ s buf

theorem ensures_v42bisCompressFlush (s : CompState) :
    Ensures (Kept s) (v42bisCompressFlush s) := by
  have hfinish (s' : CompState) (h : Kept s s') : Kept s (flushOctets
      (if s'.transparent then s' else pushOctetAlignment (pushCompressedCode
        { s' with updateAt := s'.lastMatched, lastMatched := 0, flushedLength := 0 } flush))) := by
    refine Kept.trans ?_ (kept_flushOctets _)
    split
    · exact h
    · have hcode := (kept_pushCompressedCode { s' with
        updateAt := s'.lastMatched, lastMatched := 0, flushedLength := 0 } flush).trans
          (kept_pushOctetAlignment _)
      exact h.trans hcode
  unfold v42bisCompressFlush
  split
  · exact ensures_ok.mpr (Kept.refl s)
  · dsimp only
    split
    · refine (ensures_sendEncodedData s s.lastMatched).bind fun s' hs' ↦ ?_
      exact ensures_pure.mpr (hfinish _ hs')
    · exact ensures_pure.mpr (hfinish s (Kept.refl s))

end Compressing

/-! ## Decompressing -/

section Decompressing

theorem ensures_takeOnce (s : CompState) (o : UInt8) :
    Ensures (fun r ↦ Kept s r.1) (takeOnce s o) := by
  unfold takeOnce
  refine (ensures_updateDictionary s o).bind fun s' hs' ↦ ?_
  refine (ensures_true _).bind fun code _ ↦ ?_
  split_ifs
  · exact ensures_pure.mpr (hs'.trans (kept_sendString { s' with updateAt := s'.lastMatched }))
  · exact ensures_pure.mpr (hs'.trans (kept_sendString { s' with lastAdded := 0 }))
  · dsimp only
    split_ifs
    · exact ensures_pure.mpr (hs'.trans (kept_sendString { s' with
        lastMatched := code, string := s'.string ++ [o] }))
    · exact ensures_pure.mpr hs'

theorem ensures_takeOctet (s : CompState) (o : UInt8) :
    Ensures (fun r ↦ Kept s r.1) (takeOctet s o) := by
  unfold takeOctet
  refine (ensures_takeOnce s o).bind fun ⟨s', taken⟩ hs' ↦ ?_
  cases taken with
  | true => exact ensures_pure.mpr hs'
  | false => exact (ensures_takeOnce s' o).mono fun r hr ↦ Kept.trans hs' hr

theorem ensures_addFirst (s : CompState) (code : ℕ) : Ensures (Kept s) (addFirst s code) := by
  unfold addFirst
  split
  · exact ensures_ok.mpr (Kept.refl s)
  · dsimp only
    refine (ensures_true _).bind fun p _ ↦ ?_
    split_ifs
    · refine (ensures_addOctetToDictionary _ _ _).bind fun a ha ↦ ?_
      split_ifs
      · exact ensures_error _
      · exact ensures_pure.mpr (kept_toDictionary s ha)
    · exact ensures_pure.mpr (Kept.refl s)
    · exact ensures_pure.mpr (Kept.refl s)

theorem ensures_takeCode (s : CompState) (code : ℕ) : Ensures (Kept s) (takeCode s code) := by
  unfold takeCode
  split_ifs
  · exact ensures_error _
  · have hexpand : Ensures (Kept s) (expandCodewordToString s code) :=
      (ensures_true _).bind fun _ _ ↦ ensures_pure.mpr (Kept.refl s)
    refine hexpand.bind fun s₁ h₁ ↦ (ensures_addFirst s₁ code).bind fun s₂ h₂ ↦ ?_
    have hescapes := kept_foldl kept_allowEscape s₂.string { s₂ with
      updateAt := if s₂.string.length + s₂.flushedLength = s₂.n7 then 0 else code }
    exact ensures_pure.mpr ((h₁.trans h₂).trans (hescapes.trans (kept_sendString _)))

theorem ensures_takeControl (s : CompState) (code : ℕ) :
    Ensures (Kept s) (takeControl s code) := by
  unfold takeControl
  dsimp only
  split_ifs
  · exact ensures_ok.mpr (Kept.refl s)
  · exact ensures_ok.mpr (Kept.refl s)
  · exact ensures_error _
  · exact ensures_ok.mpr (Kept.refl s)

theorem kept_fillBits (s : CompState) (buf : Bytes) : Kept s (fillBits s buf).1 := by
  induction buf generalizing s with
  | nil => exact Kept.refl s
  | cons o buf ih =>
    rw [fillBits]
    split
    · exact ih _
    · exact Kept.refl s

theorem ensures_decompressRound (s : CompState) (o : UInt8) (buf : Bytes) :
    Ensures (fun r ↦ Kept s r.1) (decompressRound s o buf) := by
  unfold decompressRound
  dsimp only
  split_ifs
  · exact ensures_ok.mpr (kept_sendString { s with escaped := false })
  · refine (ensures_takeOctet { s with
      escaped := false, escapeCode := s.escapeCode + escStep } _).bind fun r hr ↦ ?_
    exact ensures_pure.mpr hr
  · exact ensures_ok.mpr (kept_sendString { s with escaped := false })
  · exact ensures_error _
  · exact ensures_ok.mpr (Kept.refl s)
  · exact (ensures_takeOctet s o).bind fun r hr ↦ ensures_pure.mpr hr
  · exact ensures_ok.mpr (kept_fillBits s (o :: buf))
  · refine (ensures_takeControl _ _).bind fun s' hs' ↦ ensures_pure.mpr ?_
    exact (kept_fillBits s (o :: buf)).trans hs'
  · refine (ensures_takeCode _ _).bind fun s' hs' ↦ ensures_pure.mpr ?_
    exact (kept_fillBits s (o :: buf)).trans hs'

theorem ensures_decompressLoop (fuel : ℕ) (s : CompState) (buf : Bytes) :
    Ensures (Kept s) (decompressLoop fuel s buf) := by
  induction fuel generalizing s buf with
  | zero =>
    cases buf with
    | nil => exact ensures_ok.mpr (Kept.refl s)
    | cons o buf => exact ensures_error _
  | succ fuel ih =>
    cases buf with
    | nil => exact ensures_ok.mpr (Kept.refl s)
    | cons o buf =>
      rw [decompressLoop]
      refine (ensures_decompressRound s o buf).bind fun r hr ↦ ?_
      exact (ih r.1 r.2).mono fun s' hs' ↦ hr.trans hs'

/-- **Decompressing keeps what was negotiated**, whatever the other end sent. -/
theorem ensures_v42bisDecompress (s : CompState) (buf : Bytes) :
    Ensures (Kept s) (v42bisDecompress s buf) := by
  unfold v42bisDecompress
  split
  · exact ensures_ok.mpr (kept_pushChunks _ s buf)
  · exact ensures_decompressLoop _ s buf

theorem kept_v42bisDecompressFlush (s : CompState) : Kept s (v42bisDecompressFlush s) :=
  kept_sendString s

end Decompressing

end OsmoSgsn.V42bis
