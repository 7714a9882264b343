import OsmoSgsn.Api.Handover

/-!
# What happens to a request

The history says which requests were put into the slot, taken back and handled, and which responses
were sent. The progress of a request that is still there is what the history says of it, and no two
connections have the same request. So what happens to a request next depends on its progress alone,
and nothing happens to it twice.

The thread answers two kinds of requests itself, one that does not fit and the one for the health of
the gateway. Every other response than 503 is that of the main loop.
-/

namespace OsmoSgsn.Api

/-! ## Reading the history -/

/-- A request that has come so far with what has happened. -/
def Happened.reached : Progress → Happened → Option RequestId
  | .queued, .queued job => some job
  | .handled, .handled job _ => some job
  | .withdrawn, .withdrawn job => some job
  | _, _ => none

/-- The requests that have come so far. -/
def requests (log : List Happened) (p : Progress) : List RequestId :=
  log.filterMap (Happened.reached p)

/-- What a request has been through that has come so far. -/
def Progress.upTo : Progress → Progress → Bool
  | .queued, .queued | .queued, .handled | .queued, .withdrawn => true
  | .handled, .handled | .withdrawn, .withdrawn => true
  | _, _ => false

/-- What may happen to a request next. -/
def Progress.next : Progress → Progress → Bool
  | .fresh, .queued | .queued, .handled | .queued, .withdrawn => true
  | _, _ => false

/-- What a response needs to have happened before it is sent. -/
def Justified (before : List Happened) (id : RequestId) (request : Option Bytes) (code : ℕ) :
    Prop :=
  code = 503 ∨ id ∈ requests before .handled ∨
    id ∉ requests before .queued ∧ (code = 413 ∨ code = 200 ∧ request.any apiIsHealth)

/-- The hand-over is exact. -/
structure Exact (log : List Happened) : Prop where
  /-- A request is handled once. -/
  once : (requests log .handled).Nodup
  /-- One that was taken back is not handled. -/
  never : ∀ id ∈ requests log .withdrawn, id ∉ requests log .handled
  /-- The connection that the main loop uses is that of the job. -/
  stillOpen : ∀ job conn, .handled job conn ∈ log ∨ .answered job conn ∈ log → conn = some job
  /-- Each response was due. -/
  due : ∀ i id request code, log[i]? = some (.sent id request code) →
    Justified (log.take i) id request code

/-- The progress of what is there is what the history says. -/
structure History (conns : ConnPtr → Option ApiConn) (nextId : RequestId) (log : List Happened) :
    Prop extends Exact log where
  known : ∀ ac c, conns ac = some c → ∀ p, c.id ∈ requests log p ↔ p.upTo c.progress
  past : ∀ p, ∀ id ∈ requests log p, id < nextId

/-! ## Adding to the history -/

theorem requests_append (log : List Happened) (e : Happened) (p : Progress) :
    requests (log ++ [e]) p = requests log p ++ (e.reached p).toList := by
  cases h : e.reached p <;> simp [requests, List.filterMap_append, h]

theorem requests_append_of_none {log : List Happened} {e : Happened} {p : Progress}
    (h : e.reached p = none) : requests (log ++ [e]) p = requests log p := by
  simp [requests_append, h]

theorem mem_requests_append {log : List Happened} {e : Happened} {p : Progress} {id : RequestId} :
    id ∈ requests (log ++ [e]) p ↔ id ∈ requests log p ∨ e.reached p = some id := by
  simp [requests_append]

/-- What was due stays so, and what is sent now has to be. -/
theorem due_append {log : List Happened} {e : Happened}
    (h : ∀ i id request code, log[i]? = some (.sent id request code) →
      Justified (log.take i) id request code)
    (he : ∀ id request code, e = .sent id request code → Justified log id request code) :
    ∀ i id request code, (log ++ [e])[i]? = some (.sent id request code) →
      Justified ((log ++ [e]).take i) id request code := by
  intro i id request code hi
  rcases lt_trichotomy i log.length with hlt | rfl | hgt
  · rw [List.getElem?_append_left hlt] at hi
    rw [List.take_append_of_le_length hlt.le]
    exact h i id request code hi
  · rw [List.getElem?_concat_length] at hi
    rw [List.take_left]
    exact he id request code (Option.some.inj hi)
  · rw [List.getElem?_eq_none (by simpa using hgt)] at hi
    exact absurd hi (by simp)

variable {conns conns' : ConnPtr → Option ApiConn} {nextId nextId' : RequestId}
  {log : List Happened}

/-- Something happens that brings no request any further. -/
theorem History.append {e : Happened} (h : History conns nextId log)
    (he : ∀ p, e.reached p = none)
    (hopen : ∀ job conn, e = .answered job conn → conn = some job)
    (hdue : ∀ id request code, e = .sent id request code → Justified log id request code) :
    History conns nextId (log ++ [e]) where
  once := by rw [requests_append_of_none (he _)]; exact h.once
  never := by
    rw [requests_append_of_none (he _), requests_append_of_none (he _)]
    exact h.never
  stillOpen job conn hmem := by
    have hne : ∀ conn, .handled job conn ≠ e := by
      rintro conn rfl
      exact absurd (he .handled) (by simp [Happened.reached])
    rcases hmem with hmem | hmem <;> rcases List.mem_append.mp hmem with hmem | hmem
    · exact h.stillOpen job conn (.inl hmem)
    · exact absurd (List.mem_singleton.mp hmem) (hne conn)
    · exact h.stillOpen job conn (.inr hmem)
    · exact hopen job conn (List.mem_singleton.mp hmem).symm
  due := due_append h.due hdue
  known ac c hc p := by rw [requests_append_of_none (he p)]; exact h.known ac c hc p
  past p := by rw [requests_append_of_none (he p)]; exact h.past p

/-- Each connection was there with the same progress, or is new. -/
def Continues (conns : ConnPtr → Option ApiConn) (nextId : RequestId)
    (conns' : ConnPtr → Option ApiConn) : Prop :=
  ∀ ac c', conns' ac = some c' → (∃ c, conns ac = some c ∧ c'.id = c.id ∧
    c'.progress = c.progress) ∨ c'.id = nextId ∧ c'.progress = .fresh

theorem Continues.refl : Continues conns nextId conns := fun _ c hc ↦ .inl ⟨c, hc, rfl, rfl⟩

theorem Continues.update {ac : ConnPtr} {c c' : ApiConn} (hc : conns ac = some c)
    (hid : c'.id = c.id) (hprogress : c'.progress = c.progress) :
    Continues conns nextId (Function.update conns ac (some c')) := by
  intro x y hy
  by_cases hx : x = ac
  · subst hx
    rw [Function.update_self] at hy
    obtain rfl := Option.some.inj hy
    exact .inl ⟨c, hc, hid, hprogress⟩
  · rw [Function.update_of_ne hx] at hy
    exact .inl ⟨y, hy, rfl, rfl⟩

theorem Continues.add {ac : ConnPtr} {c : ApiConn} (hid : c.id = nextId)
    (hprogress : c.progress = .fresh) :
    Continues conns nextId (Function.update conns ac (some c)) := by
  intro x y hy
  by_cases hx : x = ac
  · subst hx
    rw [Function.update_self] at hy
    obtain rfl := Option.some.inj hy
    exact .inr ⟨hid, hprogress⟩
  · rw [Function.update_of_ne hx] at hy
    exact .inl ⟨y, hy, rfl, rfl⟩

theorem Continues.remove {ac : ConnPtr} :
    Continues conns nextId (Function.update conns ac none) := by
  intro x y hy
  have hx : x ≠ ac := by
    rintro rfl
    rw [Function.update_self] at hy
    exact absurd hy.symm (by simp)
  rw [Function.update_of_ne hx] at hy
  exact .inl ⟨y, hy, rfl, rfl⟩

/-- Connections come and go, and nothing happens to the requests. -/
theorem History.carry (h : History conns nextId log) (hconns : Continues conns nextId conns')
    (hle : nextId ≤ nextId') : History conns' nextId' log where
  toExact := h.toExact
  known ac c' hc' p := by
    rcases hconns ac c' hc' with ⟨c, hc, hid, hprogress⟩ | ⟨hid, hprogress⟩
    · rw [hid, hprogress]
      exact h.known ac c hc p
    · -- nothing has happened yet to a request that is new
      rw [hid, hprogress]
      refine ⟨fun hmem ↦ absurd (h.past p _ hmem) (lt_irrefl _), fun hup ↦ ?_⟩
      cases p <;> simp [Progress.upTo] at hup
  past p id hid := (h.past p id hid).trans_le hle

/-- What a request has been through once the next thing has happened to it. -/
theorem Progress.upTo_next {p q : Progress} (h : p.next q) (r : Progress) :
    r.upTo q ↔ r.upTo p ∨ r = q := by
  revert h
  cases p <;> cases q <;> cases r <;> decide

theorem Progress.not_upTo_of_next {p q : Progress} (h : p.next q) : q.upTo p = false := by
  revert h
  cases p <;> cases q <;> decide

/-- The next thing happens to the request of a connection. -/
theorem History.reach {ac : ConnPtr} {c : ApiConn} {p : Progress} {e : Happened}
    (h : History conns nextId log) (hids : Ids conns nextId) (hc : conns ac = some c)
    (hnext : c.progress.next p) (he : ∀ q, e.reached q = if q = p then some c.id else none)
    (hopen : ∀ job conn, e = .handled job conn → conn = some job) :
    History (Function.update conns ac (some { c with progress := p })) nextId (log ++ [e]) := by
  have hmem : ∀ q id, id ∈ requests (log ++ [e]) q ↔ id ∈ requests log q ∨ q = p ∧ id = c.id := by
    intro q id
    rw [mem_requests_append, he q]
    by_cases hq : q = p <;> simp [hq, eq_comm]
  have hnew : c.id ∉ requests log p := by
    rw [h.known ac c hc p, Progress.not_upTo_of_next hnext]
    exact Bool.false_ne_true
  refine ⟨⟨?_, ?_, ?_, ?_⟩, ?_, ?_⟩
  · rw [requests_append, he]
    split
    · rename_i hp
      rw [Option.toList_some, List.nodup_append]
      refine ⟨h.once, List.nodup_singleton _, ?_⟩
      rintro x hx y hy rfl
      rw [List.mem_singleton.mp hy, hp] at hx
      exact hnew hx
    · simpa using h.once
  · intro id hw hh
    rcases (hmem _ _).mp hw with hw | ⟨rfl, rfl⟩ <;> rcases (hmem _ _).mp hh with hh | ⟨hp, hid⟩
    · exact h.never id hw hh
    · -- a request that was taken back is not handled any more
      subst hp hid
      have hback := (h.known ac c hc _).mp hw
      cases hprogress : c.progress <;> simp [hprogress, Progress.next, Progress.upTo] at hnext hback
    · have hhandled := (h.known ac c hc _).mp hh
      cases hprogress : c.progress <;>
        simp [hprogress, Progress.next, Progress.upTo] at hnext hhandled
    · exact absurd hp (by simp)
  · intro job conn hin
    have hans : .answered job conn ≠ e := by
      rintro rfl
      have := he p
      simp [Happened.reached] at this
    rcases hin with hin | hin <;> rcases List.mem_append.mp hin with hin | hin
    · exact h.stillOpen job conn (.inl hin)
    · exact hopen job conn (List.mem_singleton.mp hin).symm
    · exact h.stillOpen job conn (.inr hin)
    · exact absurd (List.mem_singleton.mp hin) hans
  · refine due_append h.due ?_
    rintro id request code rfl
    have := he p
    simp [Happened.reached] at this
  · intro x y hy q
    by_cases hx : x = ac
    · subst hx
      rw [Function.update_self] at hy
      obtain rfl := Option.some.inj hy
      rw [hmem, h.known x c hc q, Progress.upTo_next hnext q]
      simp
    · rw [Function.update_of_ne hx] at hy
      have hne : y.id ≠ c.id := fun heq ↦ hx (hids.apart x ac y c hy hc heq)
      rw [hmem, ← h.known x y hy q]
      simp [hne]
  · intro q id hid
    rcases (hmem q id).mp hid with hid | ⟨-, rfl⟩
    · exact h.past q id hid
    · exact hids.lt_next ac c hc

/-! ## Step by step -/

/-- What is true of both sides and of what has happened. -/
structure Inv (s : Server) : Prop extends Control s where
  history : History s.conns s.nextId s.log

theorem inv_start : Inv Server.start where
  toControl := control_start
  history := {
    once := List.nodup_nil
    never := by simp [Server.start, requests]
    stillOpen := by simp [Server.start]
    due := by simp [Server.start]
    known := by simp [Server.start]
    past := by simp [Server.start, requests] }

/-- A step that records nothing. -/
theorem History.quiet {s s' : Server} (h : History s.conns s.nextId s.log)
    (hconns : Continues s.conns s.nextId s'.conns) (hle : s.nextId ≤ s'.nextId)
    (hlog : s'.log = s.log) : History s'.conns s'.nextId s'.log :=
  hlog ▸ h.carry hconns hle

theorem apiSend_quiet (s : Server) (ac : ConnPtr) (code : Option ℕ) :
    Continues s.conns s.nextId (apiSend s ac code).conns ∧
      (apiSend s ac code).nextId = s.nextId ∧ (apiSend s ac code).log = s.log := by
  cases hc : s.conns ac with
  | none =>
    refine ⟨?_, ?_, ?_⟩ <;> cases code <;> simp [apiSend, Server.modConn, hc, Continues.refl]
    rw [← hc, Function.update_eq_self]
    exact Continues.refl
  | some c =>
    rw [apiSend_of_some hc]
    exact ⟨Continues.update hc rfl rfl, rfl, rfl⟩

theorem apiClientClose_quiet (s : Server) (ac : ConnPtr) :
    Continues s.conns s.nextId (apiClientClose s ac).conns ∧
      (apiClientClose s ac).nextId = s.nextId ∧ (apiClientClose s ac).log = s.log := by
  rw [apiClientClose]
  split
  · exact ⟨Continues.refl, rfl, rfl⟩
  · exact ⟨Continues.remove, rfl, rfl⟩

theorem Continues.trans {conns'' : ConnPtr → Option ApiConn}
    (h : Continues conns nextId conns') (h' : Continues conns' nextId conns'') :
    Continues conns nextId conns'' := by
  intro ac c hc
  rcases h' ac c hc with ⟨b, hb, hid, hprogress⟩ | hnew
  · rcases h ac b hb with ⟨a, ha, hid', hprogress'⟩ | ⟨hid', hprogress'⟩
    · exact .inl ⟨a, ha, hid.trans hid', hprogress.trans hprogress'⟩
    · exact .inr ⟨hid.trans hid', hprogress.trans hprogress'⟩
  · exact .inr hnew

theorem apiClientRead_quiet (s : Server) (ac : ConnPtr) (data : Bytes) (memory : Bool) :
    Continues s.conns s.nextId (apiClientRead s ac data memory).conns ∧
      (apiClientRead s ac data memory).nextId = s.nextId ∧
      (apiClientRead s ac data memory).log = s.log := by
  rw [apiClientRead]
  cases hc : s.conns ac with
  | none => exact ⟨Continues.refl, rfl, rfl⟩
  | some c =>
    simp only
    split
    · exact apiSend_quiet s ac _
    · split
      · exact ⟨Continues.refl, rfl, rfl⟩
      · set c' : ApiConn := { c with buf := c.buf ++ data.take (apiConnBufSize - c.buf.length - 1) }
        have hmod : Continues s.conns s.nextId (s.modConn ac fun _ ↦ c').conns := by
          rw [Server.modConn_of_some hc]
          exact Continues.update hc rfl rfl
        have hsend (code : Option ℕ) :
            Continues s.conns s.nextId (apiSend (s.modConn ac fun _ ↦ c') ac code).conns ∧
              (apiSend (s.modConn ac fun _ ↦ c') ac code).nextId = s.nextId ∧
              (apiSend (s.modConn ac fun _ ↦ c') ac code).log = s.log :=
          ⟨hmod.trans (apiSend_quiet _ ac code).1, (apiSend_quiet _ ac code).2⟩
        split
        · exact hsend _
        · split
          · exact ⟨hmod, rfl, rfl⟩
          · split
            · exact hsend _
            · exact ⟨hmod, rfl, rfl⟩

theorem history_accept {s : Server} (h : Inv s) (ac : ConnPtr) :
    History (apiAccept s ac).conns (apiAccept s ac).nextId (apiAccept s ac).log := by
  rw [apiAccept]
  split
  · refine (h.history.carry Continues.refl (Nat.le_succ _)).append (fun p ↦ by cases p <;> rfl)
      (by simp) ?_
    rintro id request code ⟨⟩
    exact .inl rfl
  · split
    · exact h.history
    · exact h.history.carry (Continues.add rfl rfl) (Nat.le_succ _)

/-- A response that is there when the thread sends it is due. -/
theorem ApiConn.MaySend.justified {s : Server} {ac : ConnPtr} {c : ApiConn} {code : ℕ}
    (h : History s.conns s.nextId s.log) (hc : s.conns ac = some c) (hmay : c.MaySend code) :
    Justified s.log c.id c.request code := by
  rcases hmay with h503 | hhandled | ⟨hfresh, hown⟩
  · exact .inl h503
  · exact .inr (.inl ((h.known ac c hc _).mpr (by rw [hhandled]; rfl)))
  · refine .inr (.inr ⟨fun hmem ↦ ?_, hown⟩)
    have := (h.known ac c hc _).mp hmem
    rw [hfresh] at this
    exact absurd this (by simp [Progress.upTo])

theorem history_waitLoop {s : Server} {ac : ConnPtr} (h : Inv s) (hslot : s.InSlot ac)
    (timedOut : Bool) : History (apiWaitLoop s ac timedOut).conns
      (apiWaitLoop s ac timedOut).nextId (apiWaitLoop s ac timedOut).log := by
  obtain ⟨hconn, c, hc, hreq, hwork⟩ := hslot
  rcases apiWaitLoop_cases timedOut h.run hwork with
    ⟨timed, heq⟩ | ⟨hprogress, haway, heq⟩ | ⟨hprogress, hresp, haway, heq⟩ <;> rw [heq]
  · exact h.history
  · exact h.history
  · rw [Server.record_of_some hc]
    exact h.history.reach h.ids hc (by rw [hprogress]; rfl) (fun q ↦ by cases q <;> rfl) (by simp)

theorem history_api {s : Server} (h : Inv s) (memory timeUp : Bool) :
    History (apiStep s memory timeUp).conns (apiStep s memory timeUp).nextId
      (apiStep s memory timeUp).log := by
  cases hapi : s.api with
  | poll => simpa only [apiStep, hapi] using h.history
  | queue ac =>
    obtain ⟨-, c, hc, hnew⟩ := (phase_queue hapi).mp h.phase
    rw [apiStep_queue hapi hc]
    exact h.history.reach h.ids hc (by rw [hnew.1]; rfl) (fun q ↦ by cases q <;> rfl) (by simp)
  | wake ac => simpa only [apiStep, hapi] using h.history
  | lock ac =>
    simp only [apiStep, hapi]
    exact history_waitLoop h ((phase_lock hapi).mp h.phase) false
  | wait ac timed =>
    simp only [apiStep, hapi]
    exact history_waitLoop h ((phase_wait hapi).mp h.phase) _
  | waited ac done =>
    simp only [apiStep, hapi]
    obtain ⟨hconns, hnext, hlog⟩ :=
      apiSend_quiet s ac (if done = false ∧ memory = true then some 503 else none)
    exact h.history.quiet hconns hnext.ge hlog
  | flush ac =>
    obtain ⟨-, c, hc, hmay⟩ := (phase_flush hapi).mp h.phase
    simp only [apiStep, hapi, apiFlush, hc]
    cases hresp : c.resp with
    | none => exact h.history
    | some code =>
      simp only [Server.modConn_of_some hc]
      refine (h.history.append (fun p ↦ by cases p <;> rfl) (by simp) ?_).carry
        (Continues.update hc rfl rfl) le_rfl
      rintro id request code' ⟨⟩
      exact (hmay code hresp).justified h.history hc
  | close ac =>
    simp only [apiStep, hapi]
    obtain ⟨hconns, hnext, hlog⟩ := apiClientClose_quiet s ac
    exact h.history.quiet hconns hnext.ge hlog

theorem history_main {s : Server} (h : Inv s) (code : Option ℕ) :
    History (mainStep s code).conns (mainStep s code).nextId (mainStep s code).log := by
  cases hmain : s.main with
  | select =>
    simp only [mainStep, hmain]
    split <;> exact h.history
  | drained =>
    simp only [mainStep, hmain]
    split <;> exact h.history
  | handle ac job =>
    obtain ⟨ac, ⟨-, c, hc, -, hwork⟩, -⟩ := h.inSlot (by simp [hmain, MainPc.Away])
    obtain ⟨rfl, rfl, -, hprogress, -⟩ := (hmain ▸ hwork).of_handle
    simp only [mainStep, hmain, Server.modConn_of_some hc, Server.reqOf, hc, Option.map_some]
    exact h.history.reach h.ids hc (by rw [hprogress]; rfl) (fun q ↦ by cases q <;> rfl)
      (by rintro job conn ⟨⟩; rfl)
  | send ac job =>
    obtain ⟨ac, ⟨-, c, hc, -, hwork⟩, -⟩ := h.inSlot (by simp [hmain, MainPc.Away])
    obtain ⟨rfl, rfl, -, -⟩ := (hmain ▸ hwork).of_send
    simp only [mainStep, hmain, apiSend_of_some hc, Server.reqOf, hc, Option.map_some]
    exact (h.history.append (fun p ↦ by cases p <;> rfl) (by rintro job conn ⟨⟩; rfl)
      (by simp)).carry (Continues.update hc rfl rfl) le_rfl
  | finish =>
    simp only [mainStep, hmain]
    exact h.history

/-- **One step.** -/
theorem inv_step {s : Server} (h : Inv s) (t : Turn) : Inv (s.step t) := by
  refine ⟨control_step h.toControl t, ?_⟩
  cases t with
  | accept ac =>
    rw [Server.step]
    split
    · exact history_accept h ac
    · exact h.history
  | idle ac =>
    rw [Server.step]
    split
    · obtain ⟨hconns, hnext, hlog⟩ := apiClientClose_quiet s ac
      exact h.history.quiet hconns hnext.ge hlog
    · exact h.history
  | read ac data memory =>
    rw [Server.step]
    split
    · obtain ⟨hconns, hnext, hlog⟩ := apiClientRead_quiet s ac data memory
      exact h.history.quiet hconns hnext.ge hlog
    · exact h.history
  | api memory timeUp => exact history_api h memory timeUp
  | main code => exact history_main h code

theorem inv_run (ts : List Turn) : Inv (apiMachine.run Server.start ts) :=
  Machine.invariant_run (fun _ _ ↦ True) Inv (fun _ t h _ ↦ inv_step h t) inv_start
    (Machine.meets_of_forall (fun _ _ ↦ trivial) _ _)

end OsmoSgsn.Api
