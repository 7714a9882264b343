import OsmoSgsn.V42bis.Relay

/-!
# Strings are relayed

Between two strings the decompressor has the same dictionary as the compressor, and the same entry
waits for the next octet, unless it has that octet already. In transparent mode it may not have
noticed yet that the string is over: it learns that from the next octet, by the same rules.
-/

namespace OsmoSgsn.V42bis

open BitPacking

/-! ## Between two strings -/

section Between

/-- A state of the compressor that goes on well. -/
structure CompState.Ready (e : CompState) : Prop where
  sound : e.Sound
  n2 : minDictionarySize ≤ e.n2 ∧ e.n2 ≤ maxCodewords
  n7 : 1 < e.n7 ∧ e.n7 < rounds
  flushed : e.flushedLength = 0
  width : 9 ≤ e.c2 ∧ e.c2 ≤ 12
  c3 : e.c3 = 2 ^ e.c2
  packed : e.Packed
  aligned : e.transparent = true → e.bitCount = 0

/-- What both ends agree on. -/
structure Same (e d : CompState) : Prop where
  table : d.toDictionary = e.toDictionary
  c2 : d.c2 = e.c2
  n7 : d.n7 = e.n7
  escapeCode : d.escapeCode = e.escapeCode
  transparent : d.transparent = e.transparent
  flushed : d.flushedLength = 0
  escaped : d.escaped = false
  max : 0 < d.maxOutputLen

/-- The entry `u'` waits for the next octet as `u` does, or has it. -/
def Waits (dict : ℕ → DictNode) (u u' : ℕ) (buf : Bytes) : Prop :=
  ∀ o ∈ buf.head?, u' = u ∨ u = 0 ∧ ∃ r, matchOctet dict u' o = .ok r ∧ r ≠ 0

/-- How the decompressor stands in transparent mode: it has seen that the string is over, or it will
see that. -/
inductive Stands (dict : ℕ → DictNode) (u a n7 : ℕ) (buf : Bytes) (d : CompState) : Prop
  | fresh (hmatched : d.lastMatched = 0) (hstring : d.string = []) (hadded : d.lastAdded = a)
    (hwaits : Waits dict u d.updateAt buf)
  | open (hupdate : d.updateAt = 0) (hlen : d.string.length < n7)
    (hends : Ends dict d.lastAdded n7 d.lastMatched d.string buf u a)

/-- **Both ends between two strings**, with what is left of the input. -/
structure Sync (e : CompState) (buf : Bytes) (d : CompState) : Prop where
  same : Same e d
  stands : e.transparent = true → Stands e.dict e.updateAt e.lastAdded e.n7 buf d
  waits : e.transparent = false → d.string = [] ∧ Waits e.dict e.updateAt d.updateAt buf

/-- The decompressor after a string, that may go on. -/
structure After (e : CompState) (a c : ℕ) (w : Bytes) (d : CompState) : Prop where
  same : Same e d
  stands : e.transparent = true → d.lastAdded = a ∧ d.updateAt = 0 ∧
    (w.length < e.n7 → d.lastMatched = c ∧ d.string = w) ∧
    (w.length = e.n7 → d.lastMatched = 0 ∧ d.string = [])
  waits : e.transparent = false → d.string = [] ∧
    d.updateAt = if w.length = e.n7 then 0 else c

end Between

/-! ## The first octet of a string -/

section First

variable {t t' : Dictionary} {u a a' n7 : ℕ} {o : UInt8} {buf : Bytes} {d : CompState}

theorem takeOnce_of_update (h : Update d.toDictionary d.updateAt d.lastAdded o t' a') :
    takeOnce d o =
      takeOnce { d with toDictionary := t', lastAdded := a', updateAt := 0 } o := by
  unfold takeOnce
  rw [updateDictionary_of_update h]
  rfl

/-- The first octet of a string is taken at once, after what it may be added to. -/
theorem takeOnce_first (hn7 : 1 < d.n7) (hflushed : d.flushedLength = 0)
    (hmatched : d.lastMatched = 0) (hstring : d.string = [])
    (hupdate : Update d.toDictionary d.updateAt d.lastAdded o t' a')
    (hadded : ∀ o : UInt8, o.toNat + n6 ≠ a') :
    takeOnce d o = .ok ({ d with
      toDictionary := t'
      lastAdded := a'
      updateAt := 0
      lastMatched := o.toNat + n6
      string := [o] }, true) := by
  have hroot : matchOctet t'.dict 0 o = .ok (o.toNat + n6) := rfl
  obtain ⟨h0, hne⟩ := ne_zero_of_matchOctet hadded hroot
  rw [takeOnce_of_update hupdate, takeOnce_next rfl (by dsimp only; rw [hmatched]; exact hroot) h0
    hne, if_neg ?_]
  · dsimp only
    rw [hstring]
    rfl
  · dsimp only
    rw [hstring, hflushed]
    exact hn7.ne

/-- A string that the next octet ends. -/
theorem takeOnce_over (hupdate : d.updateAt = 0) (hlen : d.string.length < d.n7)
    (h : Ends d.dict d.lastAdded d.n7 d.lastMatched d.string (o :: buf) u a) :
    takeOnce d o = .ok
      ({ sendString { d with updateAt := u, lastAdded := a } with lastMatched := 0 }, false) := by
  unfold takeOnce updateDictionary
  rw [if_pos hupdate]
  cases h with
  | mismatch _ hmatch =>
    change (matchOctet d.dict d.lastMatched o >>= _) = _
    rw [hmatch]
    rfl
  | known _ hadded hmatch =>
    change (matchOctet d.dict d.lastMatched o >>= _) = _
    rw [hmatch]
    change (if d.lastAdded = 0 then _ else if d.lastAdded = d.lastAdded then _ else _) = _
    have hself : ({ d with updateAt := 0, lastAdded := 0 } : CompState) =
        { d with lastAdded := 0 } := by
      cases d
      obtain rfl := hupdate
      rfl
    rw [if_neg hadded, if_pos rfl, hself]
    rfl
  | full hfull => exact absurd hfull hlen.ne

/-- **The first octet of a string is taken**, and closes the string before it. -/
theorem takeOctet_of_stands (htable : d.toDictionary = t) (hflushed : d.flushedLength = 0)
    (hmax : 0 < d.maxOutputLen) (hn7 : d.n7 = n7) (hlong : 1 < n7)
    (hstands : Stands t.dict u a n7 (o :: buf) d)
    (hupdate : Update t u a o t' a') (hadded : ∀ o : UInt8, o.toNat + n6 ≠ a') :
    ∃ d', takeOctet d o = .ok (d', true) ∧ Sends { d with
      toDictionary := t'
      lastAdded := a'
      updateAt := 0
      lastMatched := o.toNat + n6
      string := [o]
      flushedLength := 0 } d' d.string := by
  subst htable hn7
  cases hstands with
  | fresh hmatched hstring hlast hwaits =>
    obtain ⟨b', hpending, hb'⟩ := hupdate.pending (hwaits o rfl) d.lastAdded
    obtain rfl := hb' hlast
    refine ⟨_, takeOctet_of_taken
      (takeOnce_first hlong hflushed hmatched hstring hpending hadded), ?_⟩
    rw [hstring]
    refine ⟨d.handled, d.outputBuf, (List.append_nil _).symm, ?_⟩
    cases d
    obtain rfl := hflushed
    rfl
  | «open» hnone hlen hends =>
    obtain ⟨handled, buf', hout, hsend⟩ := sends_sendString
      (d := { d with updateAt := u, lastAdded := a }) hmax
    have honce := takeOnce_over hnone hlen hends
    rw [hsend] at honce
    dsimp only at honce
    have hfirst := takeOnce_first (d := { d with
        updateAt := u, lastAdded := a, string := [], flushedLength := 0, handled := handled,
        outputBuf := buf', lastMatched := 0 }) hlong rfl rfl rfl hupdate hadded
    refine ⟨_, ?_, handled, buf', hout, rfl⟩
    unfold takeOctet
    rw [honce]
    exact hfirst

end First

/-! ## A string -/

section String

variable {e e' : CompState} {t : Dictionary} {a c u a' performance : ℕ} {o : UInt8} {w buf : Bytes}

/-- The compressor has matched a string, after an octet was added. -/
def CompState.matched (e : CompState) (t : Dictionary) (c : ℕ) (w : Bytes) (u a : ℕ) : CompState :=
  { e with toDictionary := t, lastMatched := c, string := w, updateAt := u, lastAdded := a }

theorem Stands.escape {dict : ℕ → DictNode} {n7 : ℕ} {d : CompState}
    (h : Stands dict u a n7 buf d) (x : UInt8) :
    Stands dict u a n7 buf { d with escapeCode := x } := by
  cases h with
  | fresh hmatched hstring hadded hwaits => exact .fresh hmatched hstring hadded hwaits
  | «open» hupdate hlen hends => exact .open hupdate hlen hends

/-- **A string in transparent mode is relayed.** -/
theorem relays_transparent (h : e.Ready) (htransparent : e.transparent = true)
    (hupdate : Update e.toDictionary e.updateAt e.lastAdded o t a)
    (hadded : ∀ o : UInt8, o.toNat + n6 ≠ a) (htrail : Trail t.dict a 0 (o :: w) c)
    (hlen : (o :: w).length ≤ e.n7)
    (hsends : Sends { e.matched t c (o :: w) u a' with
      compressionPerformance := performance
      escapeCode := (o :: w).foldl nextEscape e.escapeCode
      string := []
      flushedLength := 0 } e' (escapes e.escapeCode (o :: w))) :
    Relays e e' (escapes e.escapeCode (o :: w)) (Sync e (o :: buf)) (After e' a c (o :: w))
      (o :: w) := by
  obtain ⟨handled, outputBuf, -, rfl⟩ := hsends
  have hcount := h.aligned htransparent
  have hbuffer : e.bitBuffer = 0 := by
    have hlt := h.packed.lt
    rw [hcount] at hlt
    omega
  refine relays_octets hbuffer hcount hbuffer hcount fun d rest hd ↦ ?_
  obtain ⟨⟨htable, hc2, hn7, hescape, htr, hflushed, hescaped, hmax⟩, hstands, -⟩ := hd
  rw [htransparent] at htr
  cases htrail with
  | cons hmatch _ _ htrail =>
    obtain rfl := Except.ok.inj hmatch
    obtain ⟨d₁, htake, handled₁, buf₁, hout₁, rfl⟩ := takeOctet_of_stands
      (d := { d with escapeCode := nextEscape d.escapeCode o }) htable hflushed hmax
      hn7 h.n7.1 ((hstands htransparent).escape _) hupdate hadded
    have hfirst := decodes_escape htr hescaped htake (escapes (nextEscape d.escapeCode o) w ++ rest)
    obtain ⟨hopen, hover⟩ := decodes_escapes (d := { d with
      escapeCode := nextEscape d.escapeCode o
      toDictionary := t
      lastAdded := a
      updateAt := 0
      lastMatched := o.toNat + n6
      string := [o]
      flushedLength := 0
      handled := handled₁
      outputBuf := buf₁ }) htr hescaped rfl rfl hmax htrail rest
    have hout (x : Bytes) : handled₁ ++ buf₁ ++ x = d.out ++ d.string ++ x :=
      congrArg (· ++ x) hout₁
    rw [← hescape, escapes, List.append_assoc]
    rcases hlen.lt_or_eq with hlt | heq
    · refine ⟨_, hfirst.trans (hopen (hlt.trans_eq hn7.symm)), ⟨⟨rfl, hc2, hn7, rfl, htr.trans
        htransparent.symm, rfl, hescaped, hmax⟩, fun _ ↦ ⟨rfl, rfl, fun _ ↦ ⟨rfl, rfl⟩,
        fun heq ↦ absurd heq hlt.ne⟩, fun hfalse ↦ ?_⟩, rfl, rfl, hout _⟩
      exact absurd (htransparent.symm.trans hfalse) (by decide)
    · have hw : w ≠ [] := by
        rintro rfl
        exact h.n7.1.ne heq
      obtain ⟨d', ⟨handled₂, buf₂, hout₂, rfl⟩, hdecodes⟩ := hover (heq.trans hn7.symm) hw
      refine ⟨_, hfirst.trans hdecodes, ⟨⟨rfl, hc2, hn7, rfl, htr.trans htransparent.symm, rfl,
        hescaped, hmax⟩, fun _ ↦ ⟨rfl, rfl, fun hlt ↦ absurd heq hlt.ne, fun _ ↦ ⟨rfl, rfl⟩⟩,
        fun hfalse ↦ ?_⟩, rfl, rfl, ?_⟩
      · exact absurd (htransparent.symm.trans hfalse) (by decide)
      · rw [List.append_nil]
        exact hout₂.trans (hout _)

/-- A codeword is one of the table. -/
theorem Forest.lt_of_spells {dict : ℕ → DictNode} {n2 hole : ℕ} (h : Forest dict n2 hole)
    (hn2 : n5 ≤ n2) (hw : Spells dict hole a w) : a < n2 := by
  cases hw with
  | root _ hhigh => exact hhigh.trans_le hn2
  | child _ hb => exact (h.spelled _ _ hb).1

/-- What was matched is not the entry that is used next, then and after the addition. -/
theorem Update.ne_next {t₀ : Dictionary} {u₀ a₀ : ℕ} (h : Update t₀ u₀ a₀ o t a) (hsound : t.Sound)
    (hspells : Spells t.dict t.c1 c w) (hne : c ≠ a) : c ≠ t₀.c1 := by
  cases h with
  | kept _ => exact hspells.ne_hole hsound.unused.entry
  | added _ _ _ _ => exact hne

/-- **A string in compressed mode is relayed.** -/
theorem relays_compressed (h : e.Ready) (hcompressed : e.transparent = false)
    (hupdate : Update e.toDictionary e.updateAt e.lastAdded o t a) (hsound : t.Sound)
    (hn2 : t.n2 = e.n2) (hspells : Spells t.dict t.c1 c (o :: w)) (hne : c ≠ a)
    (hlen : (o :: w).length ≤ e.n7) (u a' : ℕ) :
    ∃ e' E, sendEncodedData (e.matched t c (o :: w) u a') c = .ok e' ∧
      e'.Packed ∧ 9 ≤ e'.c2 ∧ e'.c2 ≤ 12 ∧ Takes e e' E 48 ∧
      Sends { e.matched t c (o :: w) u a' with
        compressionPerformance := (e.matched t c (o :: w) u a').performance
        escapeCode := (o :: w).foldl nextEscape e.escapeCode
        c2 := e'.c2
        c3 := 2 ^ e'.c2
        bitBuffer := e'.bitBuffer
        bitCount := e'.bitCount
        string := []
        flushedLength := 0 } e' E ∧
      ∀ buf, Relays e e' E (Sync e (o :: buf)) (After e' a c (o :: w)) (o :: w) := by
  have hn5 : n5 ≤ t.n2 := (by decide : n5 ≤ minDictionarySize).trans (hn2 ▸ h.n2.1)
  have hcode : c < 2 ^ 12 :=
    (hsound.forest.lt_of_spells hn5 hspells).trans_le (hn2 ▸ h.n2.2)
  have hrounds : (o :: w).length < rounds := hlen.trans_lt h.n7.2
  have hsend := sendEncodedData_compressed (s := e.matched t c (o :: w) u a') hcompressed c
  have hfuel : 12 - e.c2 < 17 := by omega
  obtain ⟨e₁, E₁, hstep, hpacked₁, hle, hle₁, hfits, htakes, ⟨handled₁, buf₁, hout₁, he₁⟩,
    hrelays⟩ := relays_stepUp (e := { e.matched t c (o :: w) u a' with
      compressionPerformance := (e.matched t c (o :: w) u a').performance
      escapeCode := (o :: w).foldl nextEscape e.escapeCode })
      ⟨h.packed.lt, h.packed.count⟩ h.width.1 h.width.2 h.c3 hcode hfuel
  have hlow₁ : 9 ≤ e₁.c2 := h.width.1.trans hle
  obtain ⟨hwritten, hpacked₂, handled₂, buf₂, hout₂, hpush⟩ :=
    written_pushCompressedCode hpacked₁ (by omega : e₁.c2 ≤ 16) hfits
  set e₂ := pushCompressedCode e₁ c with he₂
  have hc2 : e₂.c2 = e₁.c2 := by rw [hpush]
  refine ⟨{ e₂ with string := [], flushedLength := 0 }, E₁ ++ written e₁ c, ?_,
    ⟨hpacked₂.lt, hpacked₂.count⟩, hc2 ▸ hlow₁, hc2 ▸ hle₁, ?_, ⟨e₂.handled, e₂.outputBuf, ?_, ?_⟩,
    fun buf ↦ ?_⟩
  · rw [hsend]
    exact congrArg (· >>= _) hstep
  · have hwidths : 12 * (12 - e.c2) + e₁.c2 ≤ 48 := by
      have := h.width.1
      omega
    exact (Takes.trans htakes (takes_written ⟨hwritten.buffer, hwritten.count⟩)).mono hwidths
  · have hout : e₂.out = e₁.out ++ written e₁ c := by rw [hpush]; exact hout₂
    have hout' : e₁.out = (e.matched t c (o :: w) u a').out ++ E₁ := by rw [he₁]; exact hout₁
    rw [← List.append_assoc]
    exact hout.trans (congrArg (· ++ _) hout')
  · rw [hpush]
    dsimp only
    rw [he₁]
  · have hfields : e₂.toDictionary = t ∧ e₂.n7 = e.n7 ∧ e₂.transparent = false ∧
        e₂.escapeCode = (o :: w).foldl nextEscape e.escapeCode := by
      rw [hpush]
      dsimp only
      rw [he₁]
      exact ⟨rfl, rfl, hcompressed, rfl⟩
    obtain ⟨htable₂, hn7₂, htransparent₂, hescape₂⟩ := hfields
    refine ⟨fun stream hstarts ↦ ?_, fun stream d rest hstarts hd hstep ↦ ?_⟩
    · rw [List.append_assoc]
      exact (hrelays e hcompressed h.n2.1).starts _
        (starts_written hpacked₁ hfits ⟨hwritten.buffer, hwritten.count⟩ stream hstarts)
    · obtain ⟨⟨htable, hc2d, hn7, hescape, htr, hflushed, hescaped, hmax⟩, -, hwaits⟩ := hd
      obtain ⟨hstring, hwaits⟩ := hwaits hcompressed
      have hcode : Relays e₁ { e₂ with string := [], flushedLength := 0 } (written e₁ c)
          (Widened d e₁.c2) (After { e₂ with string := [], flushedLength := 0 } a c (o :: w))
          (o :: w) := by
        refine relays_code hpacked₁ hlow₁ (by omega) hfits ⟨hwritten.buffer, hwritten.count⟩ ?_ ?_
        · rintro _ ⟨c3, buffer, count, rfl⟩
          exact ⟨htr.trans hcompressed, rfl⟩
        · rintro _ buffer' count' ⟨c3, buffer, count, rfl⟩
          obtain ⟨b', hpending, -⟩ := hupdate.pending (hwaits o rfl) d.lastAdded
          rw [← htable] at hpending
          obtain ⟨d', a'', htake, handled, buf', hout, rfl⟩ := takeCode_of_update (d := { d with
            c2 := e₁.c2, c3 := c3, bitBuffer := buffer', bitCount := count' })
            (htable ▸ h.sound) hstring hflushed hmax hpending hsound hspells
            (htable ▸ hupdate.ne_next hsound hspells hne) hrounds
          refine ⟨_, (if_neg hspells.low_le.not_gt).trans htake, ⟨⟨htable₂.symm, hc2.symm,
            hn7.trans hn7₂.symm, ?_, htr.trans (hcompressed.trans htransparent₂.symm), rfl,
            hescaped, hmax⟩, fun htrue ↦ ?_, fun _ ↦ ⟨rfl, ?_⟩⟩, rfl, rfl, ?_⟩
          · exact (congrArg (fun x ↦ (o :: w).foldl nextEscape x) hescape).trans hescape₂.symm
          · exact absurd (htransparent₂.symm.trans htrue) (by decide)
          · dsimp only
            rw [hn7, hn7₂]
          · rw [List.append_nil, hstring, List.append_nil]
            exact hout
      have hall := (hrelays d (htr.trans hcompressed) (htable ▸ h.n2.1)).trans hcode
      have hwidened : Widened d e.c2 d := ⟨d.c3, d.bitBuffer, d.bitCount, by rw [← hc2d]⟩
      exact hall.decodes stream d rest hstarts hwidened hstep

end String

end OsmoSgsn.V42bis
