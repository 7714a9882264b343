import OsmoSgsn.V42bis.Strings

/-!
# What is compressed is restored

The compressor works in the dynamic mode, in which it changes between the transparent and the
compressed mode by how well its output compresses. It can only do so after a string has been sent,
since the measure changes then and not before. So each change falls between two strings, and the
whole output is a chain of relayed pieces.
-/

namespace OsmoSgsn.V42bis

open BitPacking

/-! ## Sending a string -/

section String

variable {e : CompState} {t : Dictionary} {a c u a' : ℕ} {o : UInt8} {w : Bytes}

/-- A string has been sent, in any mode. -/
structure Sent (s e' : CompState) (E : Bytes) : Prop where
  ready : e'.Ready
  table : e'.toDictionary = s.toDictionary
  n7 : e'.n7 = s.n7
  mode : e'.compressionMode = s.compressionMode
  transparent : e'.transparent = s.transparent
  updateAt : e'.updateAt = s.updateAt
  lastMatched : e'.lastMatched = s.lastMatched
  lastAdded : e'.lastAdded = s.lastAdded
  string : e'.string = []
  out : e'.out = s.out ++ E
  takes : Takes s e' E (48 * s.string.length)

/-- **A string is relayed.** -/
theorem CompState.Ready.sent (h : e.Ready)
    (hupdate : Update e.toDictionary e.updateAt e.lastAdded o t a) (hsound : t.Sound)
    (hn2 : t.n2 = e.n2) (hadded : ∀ o : UInt8, o.toNat + n6 ≠ a)
    (htrail : Trail t.dict a 0 (o :: w) c) (hlen : (o :: w).length ≤ e.n7) (u a' : ℕ) :
    ∃ e' E, sendEncodedData (e.matched t c (o :: w) u a') c = .ok e' ∧
      Sent (e.matched t c (o :: w) u a') e' E ∧
      ∀ buf, Relays e e' E (Sync e (o :: buf)) (After e' a c (o :: w)) (o :: w) := by
  have hn2' : minDictionarySize ≤ t.n2 ∧ t.n2 ≤ maxCodewords := hn2 ▸ h.n2
  cases htransparent : e.transparent with
  | true =>
    obtain ⟨e', hsend, hsends⟩ :=
      sendEncodedData_transparent (s := e.matched t c (o :: w) u a') htransparent c
    have hrelays (buf : Bytes) : Relays e e' _ (Sync e (o :: buf)) _ _ :=
      relays_transparent h htransparent hupdate hadded htrail hlen hsends
    obtain ⟨handled, buf, hout, rfl⟩ := hsends
    refine ⟨_, _, hsend, ⟨⟨hsound, hn2', h.n7, rfl, h.width, h.c3, ⟨h.packed.lt, h.packed.count⟩,
      h.aligned⟩, rfl, rfl, rfl, rfl, rfl, rfl, rfl, rfl, hout, ?_⟩, hrelays⟩
    have hlen := length_escapes e.escapeCode (o :: w)
    change 8 * (escapes e.escapeCode (o :: w)).length + e.bitCount ≤
      e.bitCount + 48 * (o :: w).length
    omega
  | false =>
    have hspells : Spells t.dict t.c1 c (o :: w) :=
      (htrail.matched hsound.forest hsound.lt (.inl ⟨rfl, rfl⟩)).resolve_left fun h ↦
        absurd h.2 (List.cons_ne_nil o w)
    have hne : c ≠ a := (htrail.ne_added (List.cons_ne_nil o w)).2
    obtain ⟨e', E, hsend, hpacked, hlow, hwidth, htakes, ⟨handled, buf, hout, he'⟩, hrelays⟩ :=
      relays_compressed h htransparent hupdate hsound hn2 hspells hne hlen u a'
    have htable : e'.toDictionary = t := by rw [he']; rfl
    have hn7 : e'.n7 = e.n7 := by rw [he']; rfl
    have hc3 : e'.c3 = 2 ^ e'.c2 := by rw [he']
    have htr : e'.transparent = false := by rw [he']; exact htransparent
    refine ⟨e', E, hsend, ⟨⟨htable ▸ hsound, ?_, ?_, ?_, ⟨hlow, hwidth⟩, hc3, hpacked, ?_⟩, htable,
      hn7, ?_, htr.trans htransparent.symm, ?_, ?_, ?_, ?_, ?_, ?_⟩, hrelays⟩
    · rw [htable]
      exact hn2'
    · rw [hn7]
      exact h.n7
    · rw [he']
    · exact fun htrue ↦ absurd (htr.symm.trans htrue) (by decide)
    · rw [he']
    · rw [he']
    · rw [he']
    · rw [he']
    · rw [he']
    · rw [he']
      exact hout
    · exact Takes.mono htakes (Nat.le_mul_of_pos_right 48 (Nat.succ_pos w.length))

end String

/-! ## Changing the mode -/

section Mode

variable {e : CompState} {dict : ℕ → DictNode} {a c u a' n7 : ℕ} {w rest : Bytes}

/-- The compressor has sent all strings so far, in a mode that it does not want to leave. -/
structure CompState.Between (e : CompState) : Prop extends e.Ready where
  mode : e.compressionMode = .dynamic
  lastMatched : e.lastMatched = 0
  string : e.string = []
  added : ∀ o : UInt8, o.toNat + n6 ≠ e.lastAdded
  update : e.updateAt = 0 ∨ ∃ w, Spells e.dict e.c1 e.updateAt w
  settledHigh : e.transparent = true →
    compressibilityMonitor - compressibilityMonitorHysteresis ≤ e.compressionPerformance
  settledLow : e.transparent = false → e.compressionPerformance ≤ compressibilityMonitor

/-- Where a string ends, the next octet is to be added, or is there. -/
theorem Ends.waits (h : Ends dict a n7 c w rest u a') :
    Waits dict u (if w.length = n7 then 0 else c) rest := by
  intro o ho
  cases h with
  | mismatch hlen _ => exact .inl (if_neg hlen.ne)
  | known hlen hadded hmatch =>
    obtain rfl := Option.some.inj ho
    rw [if_neg hlen.ne]
    exact .inr ⟨rfl, a, hmatch, hadded⟩
  | full hlen => exact .inl (if_pos hlen)

/-- In transparent mode the decompressor will see the end of the string, or has seen it. -/
theorem After.standing {d : CompState} (h : After e a c w d) (htransparent : e.transparent = true)
    (hlen : w.length ≤ e.n7) (hends : Ends e.dict a e.n7 c w rest e.updateAt e.lastAdded) :
    Stands e.dict e.updateAt e.lastAdded e.n7 rest d := by
  obtain ⟨hlast, hupdate, hopen, hover⟩ := h.stands htransparent
  rcases hlen.lt_or_eq with hlt | heq
  · obtain ⟨rfl, rfl⟩ := hopen hlt
    exact .open hupdate hlt (hlast ▸ hends)
  · obtain ⟨hmatched, hstring⟩ := hover heq
    generalize e.updateAt = u at hends ⊢
    generalize e.lastAdded = b at hends ⊢
    cases hends with
    | mismatch hlt _ => exact absurd heq hlt.ne
    | known hlt _ _ => exact absurd heq hlt.ne
    | full _ => exact .fresh hmatched hstring hlast fun o _ ↦ .inl hupdate

/-- A command takes a decompressor to compressed mode. -/
theorem decodes_ecm {d : CompState} (htransparent : d.transparent = true)
    (hescaped : d.escaped = false) (hmax : 0 < d.maxOutputLen) (rest : Bytes) :
    ∃ d', Decodes (d, [d.escapeCode, ecm] ++ rest) (d', rest) ∧ Sends { d with
      transparent := false
      updateAt := d.lastMatched
      lastMatched := 0
      string := []
      flushedLength := 0 } d' d.string := by
  obtain ⟨handled, buf, hout, hsend⟩ := sends_sendString hmax
  have hfirst : Round (d, d.escapeCode :: ecm :: rest)
      ({ d with escaped := true }, ecm :: rest) := by
    refine ⟨d.escapeCode, ecm :: rest, rfl, ?_, by simp⟩
    unfold decompressRound
    rw [if_pos htransparent, if_neg (by rw [hescaped]; decide), if_pos rfl]
  have hsecond : Round ({ d with escaped := true }, ecm :: rest) ({ d with
      transparent := false
      updateAt := d.lastMatched
      lastMatched := 0
      string := []
      flushedLength := 0
      handled := handled
      outputBuf := buf }, rest) := by
    refine ⟨ecm, rest, rfl, ?_, by simp⟩
    unfold decompressRound
    rw [if_pos htransparent, if_pos rfl, if_pos rfl]
    dsimp only
    rw [← hescaped, hsend]
  exact ⟨_, (Decodes.single hfirst).trans (Decodes.single hsecond), handled, buf, hout, rfl⟩

/-- **A change to compressed mode is relayed.** -/
theorem goCompressed_relays (h : e.Ready) (htransparent : e.transparent = true)
    (hmatched : e.lastMatched = 0) (hlen : w.length ≤ e.n7)
    (hends : Ends e.dict a e.n7 c w rest e.updateAt e.lastAdded) :
    ∃ e' E, goCompressed e = .ok e' ∧
      Sends { e with bitBuffer := 0, transparent := false } e' E ∧ Takes e e' E 19 ∧
      Relays e e' E (After e a c w) (Sync e' rest) [] := by
  have hcount := h.aligned htransparent
  have hbuffer : e.bitBuffer = 0 := by
    have hlt := h.packed.lt
    rw [hcount] at hlt
    omega
  have hsends : Sends e (pushOctet (pushOctet e e.escapeCode) ecm) [e.escapeCode, ecm] :=
    (sends_pushOctet e e.escapeCode).trans (sends_pushOctet _ ecm)
  obtain ⟨handled, buf, hout, hpush⟩ := hsends
  have hgo : goCompressed e = .ok { e with
      bitBuffer := 0, transparent := false, handled := handled, outputBuf := buf } := by
    unfold goCompressed sendMatched
    rw [if_pos htransparent, if_pos hmatched]
    change Except.ok { pushOctet (pushOctet e e.escapeCode) ecm with
      bitBuffer := 0, transparent := false } = _
    rw [hpush]
  refine ⟨_, _, hgo, ⟨handled, buf, hout, rfl⟩, ?_, ?_⟩
  · change 8 * 2 + e.bitCount ≤ e.bitCount + 19
    omega
  refine relays_octets hbuffer hcount rfl hcount fun d stream hd ↦ ?_
  obtain ⟨⟨htable, hc2, hn7, hescape, htr, hflushed, hescaped, hmax⟩, hstands, -⟩ := hd
  obtain ⟨d', hdecodes, handled₁, buf₁, hout₁, rfl⟩ :=
    decodes_ecm (htr.trans htransparent) hescaped hmax stream
  rw [← hescape]
  refine ⟨_, hdecodes, ⟨⟨htable, hc2, hn7, rfl, rfl, rfl, hescaped, hmax⟩,
    fun htrue ↦ absurd htrue Bool.false_ne_true, fun _ ↦ ⟨rfl, ?_⟩⟩, rfl, rfl, ?_⟩
  · obtain ⟨-, -, hopen, hover⟩ := hstands htransparent
    have hwaits := hends.waits
    rcases hlen.lt_or_eq with hlt | heq
    · rw [if_neg hlt.ne] at hwaits
      rwa [(hopen hlt).1]
    · rw [if_pos heq] at hwaits
      rwa [(hover heq).1]
  · rw [List.append_nil, List.append_nil]
    exact hout₁

/-- **A change to transparent mode is relayed.** -/
theorem goTransparent_relays (h : e.Ready) (hcompressed : e.transparent = false)
    (hmatched : e.lastMatched = 0)
    (hends : Ends e.dict a e.n7 c w rest e.updateAt e.lastAdded) :
    ∃ e' E, goTransparent e = .ok e' ∧
      Sends { e with lastAdded := 0, bitBuffer := 0, bitCount := 0, transparent := true } e' E ∧
      Takes e e' E 19 ∧
      Relays e e' E (After e a c w) (Sync e' rest) [] := by
  have hetm : etm < 2 ^ e.c2 := by
    change 0 < _
    positivity
  have hwidth : e.c2 ≤ 16 := h.width.2.trans (by decide)
  obtain ⟨hwritten, hpacked, handled, buf, hout, hpush⟩ := written_pushCompressedCode
    (e := { e with lastAdded := 0 }) ⟨h.packed.lt, h.packed.count⟩ hwidth hetm
  set e₁ := pushCompressedCode { e with lastAdded := 0 } etm with he₁
  obtain ⟨handled', buf', hout', halign⟩ := sends_pushOctetAlignment hpacked
  have hgo : goTransparent e = .ok { pushOctetAlignment e₁ with transparent := true } := by
    unfold goTransparent sendMatched
    rw [if_neg (by rw [hcompressed]; decide), if_pos hmatched]
    rfl
  have hfields : { pushOctetAlignment e₁ with transparent := true } = { e with
      lastAdded := 0, bitBuffer := 0, bitCount := 0, transparent := true, handled := handled',
      outputBuf := buf' } := by
    rw [halign, hpush]
  rw [hfields] at hgo
  refine ⟨_, written e etm ++ octets ((e₁.bitCount + 7) / 8) e₁.bitBuffer, hgo,
    ⟨handled', buf', ?_, rfl⟩, ?_, ?_⟩
  · have hout₁ : e₁.out = e.out ++ written e etm := by rw [hpush]; exact hout
    refine hout'.trans ?_
    rw [← List.append_assoc]
    exact congrArg (· ++ _) hout₁
  · exact (takes_aligned ⟨hwritten.buffer, hwritten.count⟩ rfl _).mono
      (Nat.add_le_add_right h.width.2 7)
  · refine relays_aligned h.packed h.width.1 hwidth hetm ⟨hwritten.buffer, hwritten.count⟩ hpacked
      rfl rfl ?_ ?_
    · rintro d ⟨hsame, -, -⟩
      exact ⟨hsame.transparent.trans hcompressed, hsame.c2⟩
    · rintro d buffer count ⟨⟨htable, hc2, hn7, hescape, htr, hflushed, hescaped, hmax⟩, -, hwaits⟩
      obtain ⟨hnil, hupdate⟩ := hwaits hcompressed
      refine ⟨_, rfl, ⟨⟨htable, hc2, hn7, hescape, rfl, hflushed, hescaped, hmax⟩,
        fun _ ↦ .fresh rfl hnil rfl ?_, fun hfalse ↦ absurd hfalse.symm Bool.false_ne_true⟩, rfl,
        rfl, rfl⟩
      exact hupdate ▸ hends.waits

/-- **Whether or not the mode changes**, both ends are between two strings then. -/
theorem monitorForModeChange_relays (h : e.Ready) (hmode : e.compressionMode = .dynamic)
    (hmatched : e.lastMatched = 0) (hstring : e.string = [])
    (hadded : ∀ o : UInt8, o.toNat + n6 ≠ e.lastAdded)
    (hupdate : e.updateAt = 0 ∨ ∃ w, Spells e.dict e.c1 e.updateAt w) (hlen : w.length ≤ e.n7)
    (hends : Ends e.dict a e.n7 c w rest e.updateAt e.lastAdded) :
    ∃ e' E, monitorForModeChange e = .ok e' ∧ e'.Between ∧ e'.updateAt = e.updateAt ∧
      e'.out = e.out ++ E ∧ Takes e e' E 19 ∧
      Relays e e' E (After e a c w) (Sync e' rest) [] := by
  have hsettled (hhigh : e.transparent = true →
      compressibilityMonitor - compressibilityMonitorHysteresis ≤ e.compressionPerformance)
      (hlow : e.transparent = false → e.compressionPerformance ≤ compressibilityMonitor) :
      e.Between ∧ e.updateAt = e.updateAt ∧ e.out = e.out ++ [] ∧ Takes e e [] 19 ∧
        Relays e e [] (After e a c w) (Sync e rest) [] := by
    refine ⟨⟨h, hmode, hmatched, hstring, hadded, hupdate, hhigh, hlow⟩, rfl,
      (List.append_nil _).symm, (Nat.zero_add _).trans_le (Nat.le_add_right _ _),
      (Relays.refl e _).mono (fun _ hd ↦ hd) fun d hd ↦ ?_⟩
    refine ⟨hd.same, fun htrue ↦ hd.standing htrue hlen hends, fun hfalse ↦ ?_⟩
    obtain ⟨hnil, hu⟩ := hd.waits hfalse
    exact ⟨hnil, hu ▸ hends.waits⟩
  unfold monitorForModeChange
  rw [hmode]
  dsimp only
  cases htransparent : e.transparent with
  | true =>
    rw [if_pos rfl]
    split
    · rename_i hlow
      obtain ⟨e', E, hgo, ⟨handled, buf, hout, rfl⟩, htakes, hrelays⟩ :=
        goCompressed_relays h htransparent hmatched hlen hends
      refine ⟨_, E, hgo, ⟨⟨h.sound, h.n2, h.n7, h.flushed, h.width, h.c3, ⟨?_, h.packed.count⟩,
        fun htrue ↦ absurd htrue Bool.false_ne_true⟩, hmode, hmatched, hstring, hadded, hupdate,
        fun htrue ↦ absurd htrue Bool.false_ne_true, fun _ ↦ ?_⟩, rfl, hout, htakes, hrelays⟩
      · positivity
      · exact (hlow.trans_le (Nat.sub_le _ _)).le
    · rename_i hhigh
      exact ⟨e, [], rfl, hsettled (fun _ ↦ not_lt.mp hhigh)
        fun hfalse ↦ absurd (htransparent.symm.trans hfalse) (by decide)⟩
  | false =>
    rw [if_neg Bool.false_ne_true]
    split
    · rename_i hhigh
      obtain ⟨e', E, hgo, ⟨handled, buf, hout, rfl⟩, htakes, hrelays⟩ :=
        goTransparent_relays h htransparent hmatched hends
      refine ⟨_, E, hgo, ⟨⟨h.sound, h.n2, h.n7, h.flushed, h.width, h.c3, ⟨by simp, by simp⟩,
        fun _ ↦ rfl⟩, hmode, hmatched, hstring, fun o ↦ ?_, hupdate, fun _ ↦ ?_,
        fun hfalse ↦ absurd hfalse.symm Bool.false_ne_true⟩, rfl, hout, htakes, hrelays⟩
      · exact ((by decide : 0 < n6).trans_le (Nat.le_add_left n6 o.toNat)).ne'
      · exact (Nat.sub_le _ _).trans hhigh.le
    · rename_i hlow
      exact ⟨e, [], rfl, hsettled (fun htrue ↦ absurd (htransparent.symm.trans htrue) (by decide))
        fun _ ↦ not_lt.mp hlow⟩

end Mode

/-! ## The end of the input -/

section Flush

variable {s : CompState} {R : CompState → Prop}

/-- What is done in any case when the compressor is flushed. -/
def finish (s : CompState) : CompState :=
  flushOctets (if s.transparent then s else pushOctetAlignment (pushCompressedCode
    { s with updateAt := s.lastMatched, lastMatched := 0, flushedLength := 0 } flush))

/-- **The decompressor comes to its end with the compressor.** -/
theorem finish_relays (hpacked : s.Packed) (hlow : 9 ≤ s.c2) (hwidth : s.c2 ≤ 12)
    (haligned : s.transparent = true → s.bitCount = 0)
    (hR : ∀ d, R d → d.transparent = s.transparent ∧ d.c2 = s.c2 ∧ 0 < d.maxOutputLen) :
    ∃ E, (finish s).handled = s.out ++ E ∧ (finish s).bitBuffer = 0 ∧ (finish s).bitCount = 0 ∧
      Takes s (finish s) E 19 ∧ Relays s (finish s) E R (fun d ↦ 0 < d.maxOutputLen) [] := by
  unfold finish
  obtain htransparent | htransparent := Bool.eq_false_or_eq_true s.transparent
  · rw [if_pos htransparent]
    have hcount := haligned htransparent
    have hbuffer : s.bitBuffer = 0 := by
      have hlt := hpacked.lt
      rw [hcount] at hlt
      omega
    refine ⟨[], (List.append_nil _).symm, hbuffer, hcount,
      (Nat.zero_add _).trans_le (Nat.le_add_right _ _), ?_⟩
    exact relays_octets hbuffer hcount hbuffer hcount fun d rest hd ↦
      ⟨d, Relation.ReflTransGen.refl, (hR d hd).2.2, rfl, rfl, (List.append_nil _).symm⟩
  · rw [if_neg (by rw [htransparent]; decide)]
    have hflush : flush < 2 ^ s.c2 :=
      lt_of_lt_of_le (by decide) (Nat.pow_le_pow_right (by decide) hlow)
    obtain ⟨hwritten, hpacked', handled, buf, hout, hpush⟩ := written_pushCompressedCode
      (e := { s with updateAt := s.lastMatched, lastMatched := 0, flushedLength := 0 })
      ⟨hpacked.lt, hpacked.count⟩ (hwidth.trans (by decide)) hflush
    set s₁ := pushCompressedCode
      { s with updateAt := s.lastMatched, lastMatched := 0, flushedLength := 0 } flush with hs₁
    obtain ⟨handled', buf', hout', halign⟩ := sends_pushOctetAlignment hpacked'
    rw [halign]
    refine ⟨written s flush ++ octets ((s₁.bitCount + 7) / 8) s₁.bitBuffer, ?_, rfl, rfl, ?_, ?_⟩
    · have hout₁ : s₁.out = s.out ++ written s flush := by rw [hpush]; exact hout
      refine hout'.trans ?_
      rw [← List.append_assoc]
      exact congrArg (· ++ _) hout₁
    · exact (takes_aligned ⟨hwritten.buffer, hwritten.count⟩ rfl _).mono
        (Nat.add_le_add_right hwidth 7)
    · refine relays_aligned hpacked hlow (hwidth.trans (by decide)) hflush
        ⟨hwritten.buffer, hwritten.count⟩ hpacked' rfl rfl (fun d hd ↦ ?_)
        fun d buffer count hd ↦ ⟨_, rfl, (hR d hd).2.2, rfl, rfl, rfl⟩
      exact ⟨(hR d hd).1.trans htransparent, (hR d hd).2.1⟩

end Flush

/-! ## All of the input -/

section Loop

variable {e e' : CompState} {t : Dictionary} {a c u a' fuel : ℕ} {o : UInt8} {w rest buf : Bytes}

/-- What an addition leaves as the last one is no entry of a single octet. -/
theorem Update.ne_root {t₀ : Dictionary} {u₀ a₀ : ℕ} (h : Update t₀ u₀ a₀ o t a) (hsound : t₀.Sound)
    (hadded : ∀ o : UInt8, o.toNat + n6 ≠ a₀) (o' : UInt8) : o'.toNat + n6 ≠ a := by
  cases h with
  | kept _ => exact hadded o'
  | added _ _ _ _ =>
    have hlow : n5 ≤ t₀.c1 := hsound.unused.entry
    have hoctet : o'.toNat < 256 := o'.toNat_lt
    have hn5 : n5 = 256 + n6 := rfl
    omega

theorem Ends.length_le {dict : ℕ → DictNode} {n7 : ℕ} (h : Ends dict a n7 c w rest u a') :
    w.length ≤ n7 := by
  cases h with
  | mismatch hlen _ => exact hlen.le
  | known hlen _ _ => exact hlen.le
  | full hlen => exact hlen.le

/-- Where the input ends with a string, nothing waits for an octet. -/
theorem Ends.of_nil {dict : ℕ → DictNode} {n7 : ℕ} (h : Ends dict a n7 c w rest u a')
    (hrest : rest = []) : u = 0 := by
  cases h with
  | mismatch _ _ => exact absurd hrest (List.cons_ne_nil _ _)
  | known _ _ _ => rfl
  | full _ => rfl

/-- What waits for the next octet is nothing or the string, and what was added last is nothing or
what was. -/
theorem Ends.update {dict : ℕ → DictNode} {n7 : ℕ} (h : Ends dict a n7 c w rest u a') :
    (u = 0 ∨ u = c) ∧ (a' = 0 ∨ a' = a) := by
  cases h with
  | mismatch _ _ => exact ⟨.inr rfl, .inr rfl⟩
  | known _ _ _ => exact ⟨.inl rfl, .inl rfl⟩
  | full _ => exact ⟨.inl rfl, .inr rfl⟩

/-- A string is either the rest of the input or sent. -/
theorem CompState.Between.matchString (h : e.Between) (hsound : t.Sound)
    (hadded : ∀ o : UInt8, o.toNat + n6 ≠ a) (buf : Bytes) :
    ∃ w c, Trail t.dict a 0 (o :: w) c ∧
      (buf = w ∧ (o :: w).length < e.n7 ∧
          V42bis.matchString (e.matched t 0 [] 0 a) (o :: buf) =
            .ok (e.matched t c (o :: w) 0 a, []) ∨
        ∃ rest u a', buf = w ++ rest ∧ Ends t.dict a e.n7 c (o :: w) rest u a' ∧
          V42bis.matchString (e.matched t 0 [] 0 a) (o :: buf) =
            (sendEncodedData (e.matched t c (o :: w) u a') c >>= fun s ↦
              pure ({ s with lastMatched := 0 }, rest))) := by
  obtain ⟨w, c, htrail, hends⟩ := matchString_spec (s := e.matched t 0 [] 0 a) hsound rfl h.flushed
    hadded (.inl ⟨rfl, rfl⟩) (Nat.zero_lt_of_lt h.n7.1) (o :: buf)
  rcases hends with ⟨rfl, hlt, hmatch⟩ | ⟨rest, u, a', hbuf, hc, hends, hmatch⟩
  · exact ⟨buf, c, htrail, .inl ⟨rfl, hlt, hmatch⟩⟩
  · cases htrail with
    | nil => exact absurd rfl hc
    | @cons _ r _ o' w hfirst h0 hne htrail =>
      obtain ⟨rfl, rfl⟩ := List.cons.inj hbuf
      exact ⟨w, c, .cons hfirst h0 hne htrail, .inr ⟨rest, u, a', rfl, hends, hmatch⟩⟩

theorem CompState.Between.updateDictionary (h : e.Between)
    (hupdate : Update e.toDictionary e.updateAt e.lastAdded o t a) :
    V42bis.updateDictionary e o = .ok (e.matched t 0 [] 0 a) := by
  rw [updateDictionary_of_update hupdate]
  unfold CompState.matched
  rw [← h.lastMatched, ← h.string]

/-- Nothing is left to send. -/
theorem flush_between (h : e.Between) (hupdate : e.updateAt = 0) :
    v42bisCompressFlush e = .ok (finish e) := by
  unfold v42bisCompressFlush
  rw [if_neg (not_not.mpr hupdate), if_neg (not_not.mpr h.lastMatched)]
  rfl

/-- The string that the input ended with is left to send. -/
theorem flush_matched (hc : c ≠ 0) (hsend : sendEncodedData (e.matched t c w 0 a) c = .ok e') :
    v42bisCompressFlush (e.matched t c w 0 a) =
      .ok (finish { e' with flushedLength := e'.flushedLength + w.length }) := by
  have hupdate : (e.matched t c w 0 a).updateAt = 0 := rfl
  have hmatched : (e.matched t c w 0 a).lastMatched ≠ 0 := hc
  unfold v42bisCompressFlush
  rw [if_neg (not_not.mpr hupdate), if_pos hmatched]
  change (sendEncodedData (e.matched t c w 0 a) c >>= fun s ↦
    .ok (finish { s with flushedLength := s.flushedLength + w.length })) = _
  rw [hsend]
  rfl

theorem CompState.Between.monitorForModeChange (h : e.Between) :
    V42bis.monitorForModeChange (e.matched t c w u a) = .ok (e.matched t c w u a) := by
  unfold V42bis.monitorForModeChange CompState.matched
  rw [h.mode]
  dsimp only
  cases htransparent : e.transparent with
  | true => rw [if_pos rfl, if_neg (h.settledHigh htransparent).not_gt]
  | false => rw [if_neg Bool.false_ne_true, if_neg (h.settledLow htransparent).not_gt]

theorem finish_relays_sync (h : e.Ready) {R : CompState → Prop} (hR : ∀ d, R d → Same e d) :
    ∃ E, (finish e).handled = e.out ++ E ∧ (finish e).bitBuffer = 0 ∧ (finish e).bitCount = 0 ∧
      Takes e (finish e) E 19 ∧ Relays e (finish e) E R (fun d ↦ 0 < d.maxOutputLen) [] :=
  finish_relays h.packed h.width.1 h.width.2 h.aligned fun d hd ↦
    ⟨(hR d hd).transparent, (hR d hd).c2, (hR d hd).max⟩

/-- A string that the input ends with is relayed when the compressor is flushed. -/
theorem last_relays (h : e.Between)
    (hupdate : Update e.toDictionary e.updateAt e.lastAdded o t a) (hsound : t.Sound)
    (hn2 : t.n2 = e.n2) (hadded : ∀ o : UInt8, o.toNat + n6 ≠ a)
    (htrail : Trail t.dict a 0 (o :: w) c) (hlen : (o :: w).length < e.n7) :
    ∃ e' E, v42bisCompressFlush (e.matched t c (o :: w) 0 a) = .ok e' ∧ e'.handled = e.out ++ E ∧
      e'.bitBuffer = 0 ∧ e'.bitCount = 0 ∧ Takes e e' E (67 * (o :: w).length + 19) ∧
      Relays e e' E (Sync e (o :: w)) (fun d ↦ 0 < d.maxOutputLen) (o :: w) := by
  obtain ⟨e₁, E₁, hsend, hsent, hrelays₁⟩ :=
    h.sent hupdate hsound hn2 hadded htrail hlen.le 0 a
  have hready := hsent.ready
  obtain ⟨E₂, hout, hbuffer, hcount, htakes₂, hrelays₂⟩ := finish_relays
    (s := { e₁ with flushedLength := e₁.flushedLength + (o :: w).length })
    (R := After e₁ a c (o :: w)) ⟨hready.packed.lt, hready.packed.count⟩ hready.width.1
    hready.width.2 hready.aligned fun d hd ↦
      ⟨hd.same.transparent, hd.same.c2, hd.same.max⟩
  refine ⟨_, E₁ ++ E₂, flush_matched (htrail.ne_added (List.cons_ne_nil o w)).1 hsend, ?_, hbuffer,
    hcount, ?_, ?_⟩
  · have hout₁ : e₁.out = e.out ++ E₁ := hsent.out
    rw [← List.append_assoc, ← hout₁]
    exact hout
  · have htakes₁ : Takes e e₁ E₁ (48 * (o :: w).length) := hsent.takes
    exact (htakes₁.trans htakes₂).mono (Nat.add_le_add_right (Nat.mul_le_mul_right _ (by decide)) _)
  · have hboth := (hrelays₁ w).trans (hrelays₂.congr rfl rfl rfl rfl)
    rwa [List.append_nil] at hboth

/-- A string that ends before the input does is relayed, with the change of mode after it. -/
theorem next_relays (h : e.Between)
    (hupdate : Update e.toDictionary e.updateAt e.lastAdded o t a) (hsound : t.Sound)
    (hn2 : t.n2 = e.n2) (hadded : ∀ o : UInt8, o.toNat + n6 ≠ a)
    (htrail : Trail t.dict a 0 (o :: w) c) (hends : Ends t.dict a e.n7 c (o :: w) rest u a') :
    ∃ e₁ e' E, sendEncodedData (e.matched t c (o :: w) u a') c = .ok e₁ ∧
      V42bis.monitorForModeChange { e₁ with lastMatched := 0 } = .ok e' ∧ e'.Between ∧
      e'.updateAt = u ∧ e'.out = e.out ++ E ∧ Takes e e' E (67 * (o :: w).length) ∧
      Relays e e' E (Sync e (o :: w ++ rest)) (Sync e' rest) (o :: w) := by
  obtain ⟨e₁, E₁, hsend, hsent, hrelays₁⟩ :=
    h.sent hupdate hsound hn2 hadded htrail hends.length_le u a'
  obtain ⟨hready, htable, hn7, hmode, -, hu, -, ha', hstring, hout₁, htakes₁⟩ := hsent
  have hspells : Spells t.dict t.c1 c (o :: w) :=
    (htrail.matched hsound.forest hsound.lt (.inl ⟨rfl, rfl⟩)).resolve_left fun h ↦
      absurd h.2 (List.cons_ne_nil o w)
  have hdict : e₁.dict = t.dict := congrArg Dictionary.dict htable
  have hc1 : e₁.c1 = t.c1 := congrArg Dictionary.c1 htable
  obtain ⟨hwaits, hlast⟩ := hends.update
  have hends₁ : Ends e₁.dict a e₁.n7 c (o :: w) rest e₁.updateAt e₁.lastAdded := by
    rw [hdict, hn7, hu, ha']
    exact hends
  have hadded₁ (o : UInt8) : o.toNat + n6 ≠ e₁.lastAdded := by
    rw [ha']
    rcases hlast with h0 | heq
    · have hn6 : 0 < n6 := by decide
      exact fun h ↦ by have := h.trans h0; omega
    · exact fun h ↦ hadded o (h.trans heq)
  have hupdate₁ : e₁.updateAt = 0 ∨ ∃ w, Spells e₁.dict e₁.c1 e₁.updateAt w := by
    rw [hdict, hc1, hu]
    exact hwaits.imp_right fun heq ↦ ⟨o :: w, by rw [← heq] at hspells; exact hspells⟩
  obtain ⟨e', E₂, hmonitor, hbetween, hu', hout₂, htakes₂, hrelays₂⟩ := monitorForModeChange_relays
    (e := { e₁ with lastMatched := 0 }) ⟨hready.sound, hready.n2, hready.n7, hready.flushed,
      hready.width, hready.c3, ⟨hready.packed.lt, hready.packed.count⟩, hready.aligned⟩
    (hmode.trans h.mode) rfl hstring hadded₁ hupdate₁ (hn7 ▸ hends.length_le) hends₁
  refine ⟨e₁, e', E₁ ++ E₂, hsend, hmonitor, hbetween, hu'.trans hu, ?_, ?_, ?_⟩
  · have hout : e₁.out = e.out ++ E₁ := hout₁
    rw [← List.append_assoc, ← hout]
    exact hout₂
  · have htakes : Takes e e₁ E₁ (48 * (o :: w).length) := htakes₁
    refine (htakes.trans htakes₂).mono ?_
    rw [List.length_cons]
    omega
  · have hafter : Relays e₁ e' E₂ (After e₁ a c (o :: w)) (Sync e' rest) [] := by
      refine (hrelays₂.mono (fun d hd ↦ ?_) fun _ hd ↦ hd).congr rfl rfl rfl rfl
      obtain ⟨⟨htable, hc2, hn7, hescape, htr, hflushed, hescaped, hmax⟩, hstands, hwaits⟩ := hd
      exact ⟨⟨htable, hc2, hn7, hescape, htr, hflushed, hescaped, hmax⟩, hstands, hwaits⟩
    have hboth := (hrelays₁ (w ++ rest)).trans hafter
    rwa [List.append_nil] at hboth

/-- **All of the input is relayed.** -/
theorem compressLoop_relays (h : e.Between) (hempty : buf = [] → e.updateAt = 0)
    (hfuel : buf.length ≤ fuel) :
    ∃ e' E, (compressLoop fuel e buf >>= v42bisCompressFlush) = .ok e' ∧ e'.handled = e.out ++ E ∧
      e'.bitBuffer = 0 ∧ e'.bitCount = 0 ∧ Takes e e' E (67 * buf.length + 19) ∧
      Relays e e' E (Sync e buf) (fun d ↦ 0 < d.maxOutputLen) buf := by
  induction fuel generalizing e buf with
  | zero =>
    obtain rfl : buf = [] := List.length_eq_zero_iff.mp (Nat.le_zero.mp hfuel)
    obtain ⟨E, hout, hfinish⟩ := finish_relays_sync (R := Sync e []) h.toReady fun d hd ↦ hd.same
    exact ⟨_, E, flush_between h (hempty rfl), hout, hfinish⟩
  | succ fuel ih =>
    cases buf with
    | nil =>
      obtain ⟨E, hout, hfinish⟩ := finish_relays_sync (R := Sync e []) h.toReady fun d hd ↦ hd.same
      exact ⟨_, E, flush_between h (hempty rfl), hout, hfinish⟩
    | cons o buf =>
      obtain ⟨t, a, hupdate, hsound, hn2⟩ := h.sound.update h.update e.lastAdded o
      have hadded := hupdate.ne_root h.sound h.added
      obtain ⟨w, c, htrail, hends⟩ := h.matchString hsound hadded buf
      have hround : compressLoop (fuel + 1) e (o :: buf) =
          (V42bis.matchString (e.matched t 0 [] 0 a) (o :: buf) >>= fun r ↦
            V42bis.monitorForModeChange r.1 >>= fun s ↦ compressLoop fuel s r.2) := by
        rw [compressLoop, h.updateDictionary hupdate]
        rfl
      rw [hround]
      rcases hends with ⟨rfl, hlt, hmatch⟩ | ⟨rest, u, a', rfl, hends, hmatch⟩
      · -- the input ends with a string that is sent in the end
        obtain ⟨e', E, hflush, hlast⟩ := last_relays h hupdate hsound hn2 hadded htrail hlt
        refine ⟨e', E, ?_, hlast⟩
        rw [hmatch]
        change (V42bis.monitorForModeChange (e.matched t c (o :: buf) 0 a) >>= fun s ↦
          compressLoop fuel s []) >>= _ = _
        rw [h.monitorForModeChange]
        cases fuel <;> exact hflush
      · obtain ⟨e₁, e₂, E₁, hsend, hmonitor, hbetween, hu, hout₁, htakes₁, hrelays₁⟩ :=
          next_relays h hupdate hsound hn2 hadded htrail hends
        have hleft : rest.length ≤ fuel := by
          simp only [List.length_cons, List.length_append] at hfuel
          omega
        obtain ⟨e', E₂, hloop, hout₂, hbuffer, hcount, htakes₂, hrelays₂⟩ :=
          ih hbetween (fun hrest ↦ hu.trans (hends.of_nil hrest)) hleft
        refine ⟨e', E₁ ++ E₂, ?_, ?_, hbuffer, hcount, ?_, hrelays₁.trans hrelays₂⟩
        · rw [hmatch, hsend]
          change (V42bis.monitorForModeChange { e₁ with lastMatched := 0 } >>= fun s ↦
            compressLoop fuel s rest) >>= _ = _
          rw [hmonitor]
          exact hloop
        · rw [hout₂, hout₁, List.append_assoc]
        · refine (htakes₁.trans htakes₂).mono ?_
          simp only [List.length_cons, List.length_append]
          omega

end Loop

/-! ## Both ends -/

section Ends

variable {p0 p1 p2 p0' maxLen maxLen' : ℕ}

theorem between_v42bisCompInit (hp1 : minDictionarySize ≤ p1 ∧ p1 ≤ maxCodewords)
    (hp2 : minStringSize ≤ p2 ∧ p2 ≤ maxStringSize) :
    (v42bisCompInit p0 p1 p2 maxLen).Between := by
  have hlow : n5 < p1 := lt_of_lt_of_le (by decide) hp1.1
  have hlt : p1 < rounds := hp1.2.trans_lt (by decide)
  have hadded (o : UInt8) : o.toNat + n6 ≠ 0 :=
    ((by decide : 0 < n6).trans_le (Nat.le_add_left n6 o.toNat)).ne'
  exact
    { sound := ⟨forest_emptyDict p1, ⟨le_rfl, hlow, rfl⟩, hlt⟩
      n2 := hp1
      n7 := ⟨lt_of_lt_of_le (by decide) hp2.1, hp2.2.trans_lt (by decide)⟩
      flushed := rfl
      width := ⟨le_rfl, show 8 + 1 ≤ 12 by decide⟩
      c3 := rfl
      packed := ⟨Nat.one_pos, Nat.zero_lt_succ 7⟩
      aligned := fun _ ↦ rfl
      mode := rfl
      lastMatched := rfl
      string := rfl
      added := hadded
      update := .inl rfl
      settledHigh := fun _ ↦ Nat.sub_le _ _
      settledLow := fun h ↦ absurd h.symm Bool.false_ne_true }

theorem sync_v42bisCompInit (hmax : 0 < maxLen') (buf : Bytes) :
    Sync (v42bisCompInit p0 p1 p2 maxLen) buf (v42bisCompInit p0' p1 p2 maxLen') where
  same := ⟨rfl, rfl, rfl, rfl, rfl, rfl, rfl, lt_min hmax (by decide)⟩
  stands _ := .fresh rfl rfl rfl fun _ _ ↦ .inl rfl
  waits h := absurd h.symm Bool.false_ne_true

theorem handled_v42bisDecompressFlush {d : CompState} (hmax : 0 < d.maxOutputLen) :
    (v42bisDecompressFlush d).handled = d.out ++ d.string := by
  obtain ⟨handled, buf, hout, hsend⟩ := sends_sendString hmax
  unfold v42bisDecompressFlush
  rw [hsend]
  exact hout

/-- What a compressor sends from its start on is not too long, and restored by a decompressor from
its start on. -/
theorem v42bisDecompress_v42bisCompInit (hp0 : p0 ≠ 0) (hp0' : p0' ≠ 0)
    (hp1 : minDictionarySize ≤ p1 ∧ p1 ≤ maxCodewords)
    (hp2 : minStringSize ≤ p2 ∧ p2 ≤ maxStringSize) (hmax : 0 < maxLen') (maxLen : ℕ)
    (buf : Bytes) :
    ∃ e d, (v42bisCompress (v42bisCompInit p0 p1 p2 maxLen) buf >>= v42bisCompressFlush) = .ok e ∧
      8 * e.handled.length ≤ 67 * buf.length + 19 ∧
      v42bisDecompress (v42bisCompInit p0' p1 p2 maxLen') e.handled = .ok d ∧
      (v42bisDecompressFlush d).handled = buf := by
  have hbetween : (v42bisCompInit p0 p1 p2 maxLen).Between := between_v42bisCompInit hp1 hp2
  have hsync : Sync (v42bisCompInit p0 p1 p2 maxLen) buf (v42bisCompInit p0' p1 p2 maxLen') :=
    sync_v42bisCompInit hmax buf
  obtain ⟨e, E, hloop, hout, hbuffer, hcount, htakes, hrelays⟩ := compressLoop_relays hbetween
    (fun _ ↦ rfl) (Nat.le_mul_of_pos_left buf.length Nat.two_pos)
  obtain ⟨d, rest, hdecodes, hmax', hstep, hrestored⟩ := hrelays.decodes [] _ E
    (by rw [hbuffer, hcount]; exact starts_zero []) hsync
    (by rw [List.append_nil]; exact InStep.aligned E)
  rw [hbuffer, hcount] at hstep
  obtain ⟨rfl, -⟩ := hstep.align (by decide)
  have hE : e.handled = E := hout
  refine ⟨e, d, ?_, ?_, ?_, (handled_v42bisDecompressFlush hmax').trans hrestored⟩
  · unfold v42bisCompress
    rw [if_neg (show (v42bisCompInit p0 p1 p2 maxLen).p0 ≠ 0 from hp0)]
    exact hloop
  · have hfresh : (v42bisCompInit p0 p1 p2 maxLen).bitCount = 0 := rfl
    unfold Takes at htakes
    rw [hE]
    omega
  · unfold v42bisDecompress
    rw [if_neg (show (v42bisCompInit p0' p1 p2 maxLen').p0 ≠ 0 from hp0'), hE]
    exact decompressLoop_of_decodes hdecodes (Nat.le_mul_of_pos_left E.length Nat.two_pos)

variable {s r : State} {maxDecodeLen maxEncodeLen : ℕ}

theorem v42bisInit_eq_some (h : v42bisInit p0 p1 p2 maxEncodeLen maxDecodeLen = some s) :
    minDictionarySize ≤ p1 ∧ (minStringSize ≤ p2 ∧ p2 ≤ maxStringSize) ∧
      s.compress = v42bisCompInit (p0 &&& 2) p1 p2 maxEncodeLen ∧
      s.decompress = v42bisCompInit (p0 &&& 1) p1 p2 maxDecodeLen := by
  unfold v42bisInit at h
  by_cases hp1 : p1 < minDictionarySize ∨ 65535 < p1
  · rw [if_pos hp1] at h
    exact absurd h (Option.some_ne_none s).symm
  · rw [if_neg hp1] at h
    by_cases hp2 : p2 < minStringSize ∨ maxStringSize < p2
    · rw [if_pos hp2] at h
      exact absurd h (Option.some_ne_none s).symm
    · rw [if_neg hp2] at h
      obtain rfl := Option.some.inj h
      obtain ⟨hp1, -⟩ := not_or.mp hp1
      obtain ⟨hlow, hhigh⟩ := not_or.mp hp2
      exact ⟨not_lt.mp hp1, ⟨not_lt.mp hlow, not_lt.mp hhigh⟩, rfl, rfl⟩

/-- **What is compressed is restored**, if both ends start with the same parameters. -/
theorem v42bisDecompress_v42bisCompress
    (hs : v42bisInit p0 p1 p2 maxLen maxDecodeLen = some s)
    (hr : v42bisInit p0' p1 p2 maxEncodeLen maxLen' = some r) (hp0 : p0 &&& 2 ≠ 0)
    (hp0' : p0' &&& 1 ≠ 0) (hp1 : p1 ≤ maxCodewords) (hmax : 0 < maxLen') (buf : Bytes) :
    ∃ e d, (v42bisCompress s.compress buf >>= v42bisCompressFlush) = .ok e ∧
      v42bisDecompress r.decompress e.handled = .ok d ∧
      (v42bisDecompressFlush d).handled = buf := by
  obtain ⟨hlow, hp2, hcompress, -⟩ := v42bisInit_eq_some hs
  obtain ⟨-, -, -, hdecompress⟩ := v42bisInit_eq_some hr
  rw [hcompress, hdecompress]
  obtain ⟨e, d, he, -, hd⟩ :=
    v42bisDecompress_v42bisCompInit hp0 hp0' ⟨hlow, hp1⟩ hp2 hmax maxLen buf
  exact ⟨e, d, he, hd⟩

/-- The octet that announces commands, and a string that comes again. -/
theorem v42bisDecompress_v42bisCompress_abab :
    ∃ e d, (v42bisCompress (v42bisCompInit 2 512 6 1024) [0, 97, 98, 97, 98, 97, 98] >>=
        v42bisCompressFlush) = .ok e ∧
      v42bisDecompress (v42bisCompInit 1 512 6 1024) e.handled = .ok d ∧
      (v42bisDecompressFlush d).handled = [0, 97, 98, 97, 98, 97, 98] := by
  have hinit : v42bisInit 3 512 6 1024 1024 =
      some ⟨v42bisCompInit 2 512 6 1024, v42bisCompInit 1 512 6 1024⟩ := rfl
  exact v42bisDecompress_v42bisCompress hinit hinit (by decide) (by decide) (by decide)
    (by decide) _

end Ends

end OsmoSgsn.V42bis
