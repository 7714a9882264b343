import OsmoSgsn.Gtphub.ExpiryOrder

/-!
# Resolving a GGSN

A name that is not known is looked up, and what was found is kept under that name. The name is made
once, with two digits of MNC, and all later uses read it from where it was stored: the match with
lookups that are pending, the match with what was found, and also the second query, which was to be
about three digits. So what was found is always found again, but the second query repeats the first.
-/

open EStateM

namespace OsmoSgsn.Gtphub

/-- The name with a number of MNC digits for a subscriber and an access point, whose strings are cut
to the size of their fields. -/
def addrStr (lib : Lib) (imsi apn : Bytes) (have3digMnc : Bool) : Bytes :=
  makeAddrStr lib (imsi.take 15) (apn.take lib.apnMaxlen) have3digMnc

/-- The lookup that an answer is for. -/
def Hub.lookup (h : Hub) (id : ℕ) : Option GgsnLookup := h.ggsnLookups.find? (·.id = id)

/-! ## Names -/

/-- Each name is pending once or resolved once, and a pending name is the one with two digits. -/
structure Hub.Named (lib : Lib) (h : Hub) : Prop where
  made : ∀ l ∈ h.ggsnLookups, l.apnOiStr = makeAddrStr lib l.imsiStr l.apnNiStr false
  pending : (h.ggsnLookups.map GgsnLookup.apnOiStr).Nodup
  resolved : (h.resolvedGgsns.map ResolvedGgsn.apnOiStr).Nodup
  apart : ∀ l ∈ h.ggsnLookups, ∀ g ∈ h.resolvedGgsns, l.apnOiStr ≠ g.apnOiStr

section Names

variable {h h' : Hub} {lib : Lib} {now : ℕ}

theorem Hub.Named.sublist (hn : h.Named lib) (hlookups : h'.ggsnLookups.Sublist h.ggsnLookups)
    (hresolved : h'.resolvedGgsns.Sublist h.resolvedGgsns) : h'.Named lib where
  made l hl := hn.made l (hlookups.subset hl)
  pending := hn.pending.sublist (hlookups.map _)
  resolved := hn.resolved.sublist (hresolved.map _)
  apart l hl g hg := hn.apart l (hlookups.subset hl) g (hresolved.subset hg)

theorem Hub.Named.same (hn : h.Named lib) (hlookups : h'.ggsnLookups = h.ggsnLookups)
    (hresolved : h'.resolvedGgsns = h.resolvedGgsns) : h'.Named lib :=
  hn.sublist (by rw [hlookups]) (by rw [hresolved])

theorem Hub.Named.delItem (hn : h.Named lib) (item : Item) : (h.delItem item).Named lib := by
  refine hn.sublist ?_ ?_
  · rw [Hub.delItem_ggsnLookups]
    cases item with
    | ggsnLookup id => exact List.filter_sublist
    | _ => exact List.Sublist.refl _
  · rw [Hub.delItem_resolvedGgsns]
    cases item with
    | resolvedGgsn g => exact List.erase_sublist
    | _ => exact List.Sublist.refl _

theorem Hub.Named.addLookup (hn : h.Named lib) {imsiStr apnNiStr : Bytes}
    (hlookup : ∀ l ∈ h.ggsnLookups, l.apnOiStr ≠ makeAddrStr lib imsiStr apnNiStr false)
    (hresolved : ∀ g ∈ h.resolvedGgsns, g.apnOiStr ≠ makeAddrStr lib imsiStr apnNiStr false) :
    (h.addLookup imsiStr apnNiStr (makeAddrStr lib imsiStr apnNiStr false)).Named lib where
  made := List.forall_mem_cons.mpr ⟨rfl, hn.made⟩
  pending := by
    refine List.nodup_cons.mpr ⟨fun hmem ↦ ?_, hn.pending⟩
    obtain ⟨l, hl, heq⟩ := List.mem_map.mp hmem
    exact hlookup l hl heq
  resolved := hn.resolved
  apart := List.forall_mem_cons.mpr ⟨fun g hg ↦ (hresolved g hg).symm, hn.apart⟩

/-- The flag of a lookup is not part of its name. -/
theorem Hub.Named.retryLookup (hn : h.Named lib) (id : ℕ) : (h.retryLookup id).Named lib := by
  have hflag (l : GgsnLookup) : ∃ b, (if l.id = id then { l with have3digMnc := true } else l) =
      { l with have3digMnc := b } := by
    by_cases hid : l.id = id
    · exact ⟨true, if_pos hid⟩
    · exact ⟨l.have3digMnc, if_neg hid⟩
  have hname (l : GgsnLookup) :
      (if l.id = id then { l with have3digMnc := true } else l).apnOiStr = l.apnOiStr := by
    obtain ⟨b, hb⟩ := hflag l
    rw [hb]
  refine ⟨fun l hl ↦ ?_, ?_, hn.resolved, fun l hl g hg ↦ ?_⟩
  · obtain ⟨l₀, hl₀, rfl⟩ := List.mem_map.mp hl
    obtain ⟨b, hb⟩ := hflag l₀
    rw [hb]
    exact hn.made l₀ hl₀
  · have hnames : (h.retryLookup id).ggsnLookups.map GgsnLookup.apnOiStr =
        h.ggsnLookups.map GgsnLookup.apnOiStr := by
      rw [Hub.retryLookup, List.map_map]
      exact List.map_congr_left fun l _ ↦ hname l
    rw [hnames]
    exact hn.pending
  · obtain ⟨l₀, hl₀, rfl⟩ := List.mem_map.mp hl
    rw [hname]
    exact hn.apart l₀ hl₀ g hg

/-- Steps that resolve nothing keep the names. -/
theorem Hub.Named.step (hstep : HubStep lib False now h h') (hn : h.Named lib) : h'.Named lib := by
  cases hstep with
  | touch item items _ _ _ => cases item.exq <;> exact hn.same rfl rfl
  | delItem item _ => exact hn.delItem item
  | resolvedNew name pp items hresolves _ _ => exact hresolves.elim
  | lookupNew imsiStr apnNiStr hlookup hresolved => exact hn.addLookup hlookup hresolved
  | retry id => exact hn.retryLookup id
  | _ => exact hn.same rfl rfl

/-- What was pending is resolved. -/
theorem Hub.Named.resolve {l : GgsnLookup} {id : ℕ} (hn : h.Named lib) (hl : h.lookup id = some l)
    (pp : PeerPort) (items : List (Expiring Item)) :
    ((h.addResolved (h.newResolved l.apnOiStr pp) items).delItem (.ggsnLookup id)).Named lib := by
  have hmem : l ∈ h.ggsnLookups := List.mem_of_find?_eq_some hl
  have hid : l.id = id := by simpa using List.find?_some hl
  -- no other lookup has the name, so it is pending no longer
  have hother : ∀ l' ∈ h.ggsnLookups.filter (·.id ≠ id), l'.apnOiStr ≠ l.apnOiStr := by
    intro l' hl' heq
    obtain ⟨hl', hne⟩ := List.mem_filter.mp hl'
    obtain rfl := List.inj_on_of_nodup_map hn.pending hl' hmem heq
    exact absurd hid (by simpa using hne)
  generalize hk : (h.addResolved (h.newResolved l.apnOiStr pp) items).delItem (.ggsnLookup id) = k
  have hlookups : k.ggsnLookups = h.ggsnLookups.filter (·.id ≠ id) := by rw [← hk]; rfl
  have hresolved : k.resolvedGgsns = h.newResolved l.apnOiStr pp :: h.resolvedGgsns := by
    rw [← hk]
    rfl
  refine ⟨fun l' hl' ↦ ?_, ?_, ?_, fun l' hl' ↦ ?_⟩
  · rw [hlookups] at hl'
    exact hn.made l' (List.mem_filter.mp hl').1
  · rw [hlookups]
    exact hn.pending.sublist (List.filter_sublist.map _)
  · rw [hresolved]
    refine List.nodup_cons.mpr ⟨fun hmem' ↦ ?_, hn.resolved⟩
    obtain ⟨g, hg, heq⟩ := List.mem_map.mp hmem'
    exact hn.apart l hmem g hg heq.symm
  · rw [hlookups] at hl'
    rw [hresolved]
    refine List.forall_mem_cons.mpr ⟨hother l' hl', fun g hg ↦ ?_⟩
    exact hn.apart l' (List.mem_filter.mp hl').1 g hg

end Names

/-! ## Answers -/

/-- What an answer with an address leaves behind: the port of the address, under the name. -/
structure ResolvedGgsn.From (g : ResolvedGgsn) (l : GgsnLookup) (addr : GsnAddr) : Prop where
  name : g.apnOiStr = l.apnOiStr
  side : g.peer.side = .ggsn
  plane : g.peer.plane = .ctrl
  addr : g.peer.addr = addr
  port : g.peer.port = 2123

section Answers

variable {h h' : Hub} {lib : Lib} {now : ℕ}

theorem wp_resolvedGgsn (name : Bytes) (addr : GsnAddr) :
    wp (gtphubResolvedGgsn lib name addr now)
      (fun _ h' ↦ ∃ h₁ pp items, HubSteps lib False now h h₁ ∧ h₁.ggsnLookups = h.ggsnLookups ∧
        (pp.side = .ggsn ∧ pp.plane = .ctrl ∧ pp.addr = addr ∧ pp.port = 2123) ∧
        h' = h₁.addResolved (h₁.newResolved (name.take lib.apnMaxlen) pp) items)
      (fun _ _ ↦ True) h := by
  unfold gtphubResolvedGgsn
  rw [wp_bind]
  have hport : Walks lib False now (fun _ ↦ True) (gtphubPortHave lib .ggsn .ctrl addr 2123) _ h :=
    walks_portHave fun _ ↦ trivial
  refine wp_mono hport ?_ fun _ _ _ ↦ trivial
  rintro pp h₁ ⟨hsteps, ⟨-, hpp⟩, hlookups⟩
  rw [wp_bind, wp_get, wp_bind, wp_set, wp_bind]
  refine wp_mono (wp_refCountInc pp) ?_ fun _ _ _ ↦ trivial
  rintro _ h₂ rfl
  rw [wp_bind]
  refine wp_mono (wp_expiryAdd .slowly _ now) ?_ fun _ _ _ ↦ trivial
  rintro _ h₃ ⟨items, -, rfl⟩
  exact ⟨h₁, pp, items, hsteps, hlookups, hpp, rfl⟩

/-- An answer with an address ends the lookup, and the hub knows the name. -/
theorem wp_lookupCb_address {id : ℕ} {addr : GsnAddr} {l : GgsnLookup} (hn : h.Named lib)
    (hl : h.lookup id = some l) (haddr : addr.length ≤ 16) :
    wp (ggsnLookupCb lib id (.address addr) now)
      (fun _ h' ↦ h'.Named lib ∧ ∃ g ∈ h'.resolvedGgsns, g.From l addr) (fun _ _ ↦ True) h := by
  have hfind : h.ggsnLookups.find? (·.id = id) = some l := hl
  have hname : l.apnOiStr.take lib.apnMaxlen = l.apnOiStr := by
    rw [hn.made l (List.mem_of_find?_eq_some hl), makeAddrStr, List.take_take, min_self]
  unfold ggsnLookupCb
  rw [wp_bind, wp_get, hfind]
  dsimp only
  rw [if_pos haddr, wp_bind]
  refine wp_mono (wp_resolvedGgsn l.apnOiStr addr) ?_ fun _ _ _ ↦ trivial
  rintro _ h₂ ⟨h₁, pp, items, hsteps, hlookups, ⟨hside, hplane, hppaddr, hport⟩, rfl⟩
  rw [hname]
  have hn₁ : h₁.Named lib := hsteps.invariant (fun _ _ hstep hn ↦ hn.step hstep) hn
  have hl₁ : h₁.lookup id = some l := by rw [Hub.lookup, hlookups, ← hl, Hub.lookup]
  refine wp_mono (wp_expiringItemDel (.ggsnLookup id)) ?_ fun _ _ _ ↦ trivial
  rintro _ h₃ rfl
  refine ⟨hn₁.resolve hl₁ pp items, h₁.newResolved l.apnOiStr pp, ?_, rfl, hside, hplane, hppaddr,
    hport⟩
  rw [Hub.delItem_resolvedGgsns]
  exact List.mem_cons_self

theorem wp_lookupCb_named (id : ℕ) (answer : DnsAnswer) (hn : h.Named lib) :
    wp (ggsnLookupCb lib id answer now) (fun _ h' ↦ h'.Named lib) (fun _ _ ↦ True) h := by
  cases hl : h.lookup id with
  | none =>
    have hfind : h.ggsnLookups.find? (·.id = id) = none := hl
    unfold ggsnLookupCb
    rw [wp_bind, wp_get, hfind]
    exact hn
  | some l =>
    have hfind : h.ggsnLookups.find? (·.id = id) = some l := hl
    have hover : wp (expiringItemDel (.ggsnLookup id)) (fun _ h' ↦ h'.Named lib) (fun _ _ ↦ True)
        h := by
      refine wp_mono (wp_expiringItemDel (.ggsnLookup id)) ?_ fun _ _ _ ↦ trivial
      rintro _ h' rfl
      exact hn.delItem _
    cases answer with
    | address addr =>
      by_cases haddr : addr.length ≤ 16
      · exact wp_mono (wp_lookupCb_address hn hl haddr) (fun _ _ hboth ↦ hboth.1) fun _ _ hf ↦ hf
      · unfold ggsnLookupCb
        rw [wp_bind, wp_get, hfind]
        dsimp only
        rw [if_neg haddr]
        exact hover
    | noAddress =>
      unfold ggsnLookupCb
      rw [wp_bind, wp_get, hfind]
      exact hover
    | failure =>
      unfold ggsnLookupCb
      rw [wp_bind, wp_get, hfind]
      dsimp only
      split
      · rw [wp_bind, wp_modify]
        exact (hn.retryLookup id).same rfl rfl
      · exact hover

/-- A second query, for the name of the first. -/
theorem lookupCb_failure {id : ℕ} {l : GgsnLookup} (hl : h.lookup id = some l)
    (hfirst : l.have3digMnc = false) : ggsnLookupCb lib id .failure now h =
      .ok () { h.retryLookup id with queries := (id, l.apnOiStr) :: h.queries } := by
  have hfind : h.ggsnLookups.find? (·.id = id) = some l := hl
  have hid : l.id = id := by simpa using List.find?_some hl
  unfold ggsnLookupCb
  rw [get_bind_apply, hfind]
  dsimp only
  rw [hfirst, if_pos (by decide), modify_bind_apply, ← hid]
  rfl

end Answers

/-! ## Resolving -/

section Resolving

variable {h : Hub} {lib : Lib} {t : ℕ}

/-- A name that is not known is looked up, with two digits of MNC. -/
def Hub.QueriesFirst (lib : Lib) (h : Hub) (imsi apn : Bytes) (clock : ℕ) : Prop :=
  (∀ l ∈ h.ggsnLookups, l.apnOiStr ≠ addrStr lib imsi apn false) →
    (∀ g ∈ h.resolvedGgsns, g.apnOiStr ≠ addrStr lib imsi apn false) →
    ∃ h', gtphubResolveGgsnAddr lib imsi apn clock h = .ok none h' ∧
      h'.queries = (h.nextId, addrStr lib imsi apn false) :: h.queries ∧
      h'.ggsnLookups = ⟨h.nextId, imsi.take 15, apn.take lib.apnMaxlen, addrStr lib imsi apn false,
        false⟩ :: h.ggsnLookups

theorem Hub.InOrder.queriesFirst (ho : h.InOrder t) (imsi apn : Bytes) {clock : ℕ}
    (hle : t ≤ clock) : h.QueriesFirst lib imsi apn clock := by
  intro hlookup hresolved
  have hpending : h.ggsnLookups.any (·.apnOiStr =
      makeAddrStr lib (imsi.take 15) (apn.take lib.apnMaxlen) false) = false := by
    rw [List.any_eq_false]
    intro l hl
    rw [decide_eq_true_eq]
    exact hlookup l hl
  have hcache : h.resolvedGgsns.find? (·.apnOiStr =
      makeAddrStr lib (imsi.take 15) (apn.take lib.apnMaxlen) false) = none := by
    rw [List.find?_eq_none]
    intro g hg
    rw [decide_eq_true_eq]
    exact hresolved g hg
  obtain ⟨items, hadd⟩ := Option.isSome_iff_exists.mp
    ((ho.mono hle .quickly).add_isSome le_rfl (.ggsnLookup h.nextId))
  unfold gtphubResolveGgsnAddr
  rw [get_bind_apply]
  dsimp only
  rw [hpending, if_neg Bool.false_ne_true, hcache]
  dsimp only
  let k := h.addLookup (imsi.take 15) (apn.take lib.apnMaxlen) (addrStr lib imsi apn false)
  have hqueue : expiryAdd .quickly (.ggsnLookup h.nextId) clock k =
      .ok () (k.setExq items .quickly) := by
    have hexq : k.exq .quickly = h.exq .quickly := rfl
    unfold expiryAdd
    rw [get_bind_apply, hexq, hadd]
    rfl
  refine ⟨{ k.setExq items .quickly with
    queries := (h.nextId, addrStr lib imsi apn false) :: h.queries }, ?_, rfl, rfl⟩
  rw [set_bind_apply]
  exact bind_apply_ok hqueue

/-- What is resolved is found. -/
theorem Hub.Named.resolveGgsnAddr (hn : h.Named lib) {g : ResolvedGgsn} (hg : g ∈ h.resolvedGgsns)
    {imsi apn : Bytes} (hname : g.apnOiStr = addrStr lib imsi apn false) (clock : ℕ) :
    gtphubResolveGgsnAddr lib imsi apn clock h = .ok (some g.peer) h := by
  have hpending : h.ggsnLookups.any (·.apnOiStr =
      makeAddrStr lib (imsi.take 15) (apn.take lib.apnMaxlen) false) = false := by
    rw [List.any_eq_false]
    intro l hl
    rw [decide_eq_true_eq]
    exact fun heq ↦ hn.apart l hl g hg (heq.trans hname.symm)
  have hcache : h.resolvedGgsns.find? (·.apnOiStr =
      makeAddrStr lib (imsi.take 15) (apn.take lib.apnMaxlen) false) = some g := by
    cases hfind : h.resolvedGgsns.find? (·.apnOiStr =
        makeAddrStr lib (imsi.take 15) (apn.take lib.apnMaxlen) false) with
    | none =>
      have hnot := List.find?_eq_none.mp hfind g hg
      exact absurd (decide_eq_true hname) hnot
    | some g' =>
      have hname' := List.find?_some hfind
      rw [decide_eq_true_eq] at hname'
      exact congrArg some (List.inj_on_of_nodup_map hn.resolved (List.mem_of_find?_eq_some hfind) hg
        (hname'.trans hname.symm))
  unfold gtphubResolveGgsnAddr
  rw [get_bind_apply]
  dsimp only
  rw [hpending, if_neg Bool.false_ne_true, hcache]
  rfl

end Resolving

/-! ## Runs -/

/-- An event that resolves names only through answers to queries, as the code does it. -/
def HubEvent.ByDns (e : HubEvent) : Prop := ∀ name addr now, e ≠ .resolvedGgsn name addr now

/-- A first query that fails is followed by one for the name with three digits of MNC, which is
another name. -/
def Handled.Retries (lib : Lib) (o : Handled) : Prop :=
  ∀ id now l, o.event = .lookupCb id .failure now → o.before.lookup id = some l →
    l.have3digMnc = false →
      o.after.queries = (id, makeAddrStr lib l.imsiStr l.apnNiStr true) :: o.before.queries ∧
        makeAddrStr lib l.imsiStr l.apnNiStr true ≠ l.apnOiStr

/-- The event is not the failure of a first query. -/
def NoFirstFailure (s : System) (e : HubEvent) : Prop :=
  s.fault = none → ∀ id now l, e = .lookupCb id .failure now → s.hub.lookup id = some l →
    l.have3digMnc = true

/-- How GGSNs are resolved in a run: an unknown name is queried with two digits of MNC, after a
failure with three, and an answer with an address is given to later packets of that subscriber and
access point as long as it is kept. -/
structure RunResolves (lib : Lib) (h₀ : Hub) (es : List HubEvent) : Prop where
  first : ∀ es₁, es₁ <+: es → ((hubMachine lib).run ⟨h₀, none⟩ es₁).fault = none →
    ∀ imsi apn clock, endClock 0 es₁ ≤ clock →
      ((hubMachine lib).run ⟨h₀, none⟩ es₁).hub.QueriesFirst lib imsi apn clock
  second : ∀ o ∈ (hubMachine lib).trace ⟨h₀, none⟩ es, o.Retries lib
  remembered : ∀ es₁ id addr now es₂, es₁ ++ .lookupCb id (.address addr) now :: es₂ <+: es →
    ((hubMachine lib).run ⟨h₀, none⟩
      (es₁ ++ .lookupCb id (.address addr) now :: es₂)).fault = none →
    ∀ l, ((hubMachine lib).run ⟨h₀, none⟩ es₁).hub.lookup id = some l → addr.length ≤ 16 →
      ∃ g ∈ ((hubMachine lib).run ⟨h₀, none⟩
          (es₁ ++ [.lookupCb id (.address addr) now])).hub.resolvedGgsns, g.From l addr ∧
        (g ∈ ((hubMachine lib).run ⟨h₀, none⟩
          (es₁ ++ .lookupCb id (.address addr) now :: es₂)).hub.resolvedGgsns →
          ∀ imsi apn clock, imsi.take 15 = l.imsiStr → apn.take lib.apnMaxlen = l.apnNiStr →
            gtphubResolveGgsnAddr lib imsi apn clock ((hubMachine lib).run ⟨h₀, none⟩
              (es₁ ++ .lookupCb id (.address addr) now :: es₂)).hub = .ok (some g.peer)
                ((hubMachine lib).run ⟨h₀, none⟩
                  (es₁ ++ .lookupCb id (.address addr) now :: es₂)).hub)

section Run

variable {lib : Lib}

theorem named_handle {h : Hub} (e : HubEvent) (hdns : e.ByDns) (hs : h.Sound) (hn : h.Named lib) :
    wp (e.handle lib) (fun _ h' ↦ h'.Named lib) (fun _ _ ↦ True) h := by
  have hhandles : wp (e.handle lib) (fun _ h' ↦ Handles lib e h h') _ h :=
    walks_handle e hs.linked (permitted_other e)
  have hsteps {h₁ h₂ : Hub} {t : ℕ} (hsteps : HubSteps lib False t h₁ h₂) (hn : h₁.Named lib) :
      h₂.Named lib := hsteps.invariant (fun _ _ hstep hn ↦ hn.step hstep) hn
  have hkeeps (hres : e.Resolves = False) :
      wp (e.handle lib) (fun _ h' ↦ h'.Named lib) (fun _ _ ↦ True) h := by
    refine wp_mono hhandles (fun _ h' hh ↦ ?_) fun _ _ _ ↦ trivial
    obtain ⟨h₁, h₂, hsteps₁, hsteps₂, heq⟩ := hh.walks
    rw [hres] at hsteps₁ hsteps₂
    have hn₂ : h₂.Named lib := hsteps hsteps₂ (hsteps hsteps₁ hn)
    rcases heq with rfl | rfl
    · exact hn₂
    · exact hn₂.same rfl rfl
  cases e with
  | rx r => exact hkeeps rfl
  | gc now => exact hkeeps rfl
  | resolvedGgsn name addr now => exact absurd rfl (hdns name addr now)
  | lookupCb id answer now =>
    simp only [HubEvent.handle]
    rw [wp_bind]
    exact wp_mono (wp_lookupCb_named id answer hn) (fun _ _ hn' ↦ hn') fun _ _ hf ↦ hf

theorem named_run {s : System} {es : List HubEvent}
    (hs : s.Keeps (fun h ↦ h.Sound ∧ h.Named lib) (fun _ ↦ True)) (hdns : ∀ e ∈ es, e.ByDns) :
    ((hubMachine lib).run s es).Keeps (fun h ↦ h.Sound ∧ h.Named lib) (fun _ ↦ True) := by
  induction es generalizing s with
  | nil => exact hs
  | cons e es ih =>
    obtain ⟨he, hdns⟩ := List.forall_mem_cons.mp hdns
    refine ih (System.Keeps.step (fun h hh ↦ ?_) s hs) hdns
    refine wp_mono (wp_and (sound_handle (P := OtherFault) e hh.1 (permitted_other e) ?_)
      (named_handle e he hh.1 hh.2)) (fun _ _ hboth ↦ hboth) fun _ _ _ ↦ trivial
    exact fun hf ↦ hf.1 rfl

theorem gtphubStart_named {cfg : HubCfg} {h₀ : Hub}
    (hstart : gtphubStart lib cfg (gtphubInit cfg) = .ok () h₀) : h₀.Sound ∧ h₀.Named lib := by
  refine gtphubStart_invariant (Hub.Named lib) (fun _ _ hstep _ hn ↦ hn.step hstep)
    (fun h s p pp _ hn ↦ hn.same rfl rfl) ?_ hstart
  exact
    { made := fun l hl ↦ by cases hl
      pending := List.nodup_nil
      resolved := List.nodup_nil
      apart := fun l hl ↦ by cases hl }

/-- A step follows a failure with the right query exactly when it is not the failure of a first
query. -/
theorem retries_step_iff (s : System) (e : HubEvent) :
    (∀ o ∈ ((hubMachine lib).step s e).2, o.Retries lib) ↔ NoFirstFailure s e := by
  obtain ⟨h, fault⟩ := s
  cases fault with
  | some f => exact ⟨fun _ hnone ↦ by simp at hnone, fun _ o ho ↦ by simp [hubMachine] at ho⟩
  | none =>
    constructor
    · intro hretries _ id now l he hl
      by_contra hfirst
      rw [Bool.not_eq_true] at hfirst
      subst he
      have hmem : (⟨h, .lookupCb id .failure now, .done,
          { h.retryLookup id with queries := (id, l.apnOiStr) :: h.queries }⟩ : Handled) ∈
          ((hubMachine lib).step ⟨h, none⟩ (.lookupCb id .failure now)).2 := by
        have hstep : HubEvent.handle lib (.lookupCb id .failure now) h =
            .ok .done { h.retryLookup id with queries := (id, l.apnOiStr) :: h.queries } :=
          bind_apply_ok (lookupCb_failure hl hfirst)
        simp only [hubMachine, hstep, List.mem_singleton]
      obtain ⟨hqueries, hne⟩ := hretries _ hmem id now l rfl hl hfirst
      exact hne (Prod.mk.inj (List.cons.inj hqueries).1).2.symm
    · intro hok o ho id now l he hl hfirst
      have hboth : o.event = e ∧ o.before = h := by
        simp only [hubMachine] at ho
        split at ho
        · obtain rfl := List.mem_singleton.mp ho
          exact ⟨rfl, rfl⟩
        · simp at ho
      rw [hboth.1] at he
      rw [hboth.2] at hl
      rw [hok rfl id now l he hl] at hfirst
      simp at hfirst

end Run

/-- The SGSN of the example asks for a tunnel twice, and the query for the name is answered in
between. -/
def exampleLookup : List HubEvent :=
  [.rx (exampleCreateReq 1 0x11 0x22 7), .lookupCb 1 (.address [192, 168, 0, 9]) 0,
    .rx (exampleCreateReq 2 0x11 0x22 7)]

end OsmoSgsn.Gtphub
