import OsmoSgsn.Api.Jobs

/-!
# The hand-over of a job

Control comes first: where the two sides are, what the slot says, and how far the request is. From
it follows the history: each handled request is the one that is in the slot, its connection is open,
and it has neither been handled nor taken back.

The thread answers two kinds of requests itself, one that does not fit and the one for the health of
the gateway. Every other response than 503 is that of the main loop.
-/

namespace OsmoSgsn.Api

/-! ## Control -/

/-- The connection that the thread is at work on. -/
def ApiPc.conn : ApiPc → Option ConnPtr
  | .poll => none
  | .queue ac | .wake ac | .lock ac | .wait ac _ | .waited ac _ | .flush ac | .close ac => some ac

/-- Nothing has been done with a request yet. -/
def ApiConn.Untouched (c : ApiConn) : Prop := c.progress = .fresh ∧ c.resp = none

/-- The main loop is not at work on a job. -/
def MainPc.Away (m : MainPc) : Prop := m = .select ∨ m = .drained

/-- How far the main loop is with a job in the slot, and what is true of its request then. -/
inductive AtWork (ac : ConnPtr) (id : RequestId) :
    ApiJobState → MainPc → Progress → Option ℕ → Prop
  | pending {m : MainPc} (h : m.Away) : AtWork ac id .pending m .queued none
  | handle : AtWork ac id .running (.handle ac id) .queued none
  | send {resp : Option ℕ} : AtWork ac id .running (.send ac id) .handled resp
  | finish {resp : Option ℕ} : AtWork ac id .running .finish .handled resp
  | done {m : MainPc} {resp : Option ℕ} (h : m.Away) : AtWork ac id .done m .handled resp

section AtWork

variable {ac ac' : ConnPtr} {id job : RequestId} {st : ApiJobState} {m : MainPc} {p : Progress}
  {resp : Option ℕ}

theorem AtWork.of_pending (h : AtWork ac id .pending m p resp) :
    m.Away ∧ p = .queued ∧ resp = none := by
  cases h with | pending h => exact ⟨h, rfl, rfl⟩

theorem AtWork.of_done (h : AtWork ac id .done m p resp) : m.Away ∧ p = .handled := by
  cases h with | done h => exact ⟨h, rfl⟩

theorem AtWork.of_handle (h : AtWork ac id st (.handle ac' job) p resp) :
    ac' = ac ∧ job = id ∧ st = .running ∧ p = .queued ∧ resp = none := by
  cases h with
  | pending h => simp [MainPc.Away] at h
  | handle => exact ⟨rfl, rfl, rfl, rfl, rfl⟩
  | done h => simp [MainPc.Away] at h

theorem AtWork.of_send (h : AtWork ac id st (.send ac' job) p resp) :
    ac' = ac ∧ job = id ∧ st = .running ∧ p = .handled := by
  cases h with
  | pending h => simp [MainPc.Away] at h
  | send => exact ⟨rfl, rfl, rfl, rfl⟩
  | done h => simp [MainPc.Away] at h

theorem AtWork.of_finish (h : AtWork ac id st .finish p resp) : st = .running ∧ p = .handled := by
  cases h with
  | pending h => simp [MainPc.Away] at h
  | finish => exact ⟨rfl, rfl⟩
  | done h => simp [MainPc.Away] at h

/-- While it is not at work on a job, the main loop goes where it likes. -/
theorem AtWork.away {m' : MainPc} (h : AtWork ac id st m p resp) (hm : m.Away) (hm' : m'.Away) :
    AtWork ac id st m' p resp := by
  cases h with
  | pending => exact .pending hm'
  | handle => simp [MainPc.Away] at hm
  | send => simp [MainPc.Away] at hm
  | finish => simp [MainPc.Away] at hm
  | done => exact .done hm'

end AtWork

/-- The slot is empty. -/
def Server.Idle (s : Server) : Prop := s.jobState = .none ∧ s.jobConn = none ∧ s.main.Away

/-- The job of a connection is in the slot. -/
def Server.InSlot (s : Server) (ac : ConnPtr) : Prop :=
  s.jobConn = some ac ∧ ∃ c, s.conns ac = some c ∧ s.jobReq = c.id ∧
    AtWork ac c.id s.jobState s.main c.progress c.resp

/-- The responses that may be there for a request. -/
def ApiConn.MaySend (c : ApiConn) (code : ℕ) : Prop :=
  code = 503 ∨ c.progress = .handled ∨
    c.progress = .fresh ∧ (code = 413 ∨ code = 200 ∧ c.request.any apiIsHealth)

/-- What is true where the thread is. -/
def Server.Phase (s : Server) : Prop :=
  match s.api with
  | .poll | .close _ => s.Idle
  | .queue ac => s.Idle ∧ ∃ c, s.conns ac = some c ∧ c.Untouched
  | .wake ac | .lock ac | .wait ac _ => s.InSlot ac
  | .waited ac done =>
    s.Idle ∧ ∃ c, s.conns ac = some c ∧
      (if done then c.progress = .handled else c.progress = .withdrawn ∧ c.resp = none)
  | .flush ac => s.Idle ∧ ∃ c, s.conns ac = some c ∧ ∀ code ∈ c.resp, c.MaySend code

/-- No two connections have the same request, and the next one is new. -/
structure Ids (conns : ConnPtr → Option ApiConn) (nextId : RequestId) : Prop where
  lt_next : ∀ ac c, conns ac = some c → c.id < nextId
  apart : ∀ ac ac' c c', conns ac = some c → conns ac' = some c' → c.id = c'.id → ac = ac'

/-- Nothing has been done with the requests that the thread is not at work on. -/
def Others (conns : ConnPtr → Option ApiConn) (ac : Option ConnPtr) : Prop :=
  ∀ x c, conns x = some c → ac ≠ some x → c.Untouched

/-- Control. -/
structure Control (s : Server) : Prop where
  run : s.threadRun = true
  ids : Ids s.conns s.nextId
  others : Others s.conns s.api.conn
  phase : s.Phase

theorem Ids.update {conns : ConnPtr → Option ApiConn} {nextId : RequestId} {ac : ConnPtr}
    {c c' : ApiConn} (h : Ids conns nextId) (hc : conns ac = some c) (hid : c'.id = c.id) :
    Ids (Function.update conns ac (some c')) nextId := by
  have hback : ∀ x y, Function.update conns ac (some c') x = some y →
      ∃ z, conns x = some z ∧ z.id = y.id := by
    intro x y hy
    by_cases hx : x = ac
    · subst hx
      rw [Function.update_self] at hy
      obtain rfl := Option.some.inj hy
      exact ⟨c, hc, hid.symm⟩
    · rw [Function.update_of_ne hx] at hy
      exact ⟨y, hy, rfl⟩
  constructor
  · intro x y hy
    obtain ⟨z, hz, hzy⟩ := hback x y hy
    exact hzy ▸ h.lt_next x z hz
  · intro x x' y y' hy hy' heq
    obtain ⟨z, hz, hzy⟩ := hback x y hy
    obtain ⟨z', hz', hzy'⟩ := hback x' y' hy'
    exact h.apart x x' z z' hz hz' (hzy.trans (heq.trans hzy'.symm))

theorem Ids.remove {conns : ConnPtr → Option ApiConn} {nextId : RequestId} {ac : ConnPtr}
    (h : Ids conns nextId) : Ids (Function.update conns ac none) nextId := by
  have hback : ∀ x y, Function.update conns ac none x = some y → conns x = some y := by
    intro x y hy
    by_cases hx : x = ac
    · subst hx
      rw [Function.update_self] at hy
      exact absurd hy.symm (by simp)
    · rwa [Function.update_of_ne hx] at hy
  exact ⟨fun x y hy ↦ h.lt_next x y (hback x y hy),
    fun x x' y y' hy hy' ↦ h.apart x x' y y' (hback x y hy) (hback x' y' hy')⟩

theorem Ids.add {conns : ConnPtr → Option ApiConn} {nextId : RequestId} {ac : ConnPtr}
    {c : ApiConn} (h : Ids conns nextId) (hid : c.id = nextId) :
    Ids (Function.update conns ac (some c)) (nextId + 1) := by
  have hback : ∀ x y, Function.update conns ac (some c) x = some y →
      x = ac ∧ y.id = nextId ∨ conns x = some y ∧ y.id < nextId := by
    intro x y hy
    by_cases hx : x = ac
    · subst hx
      rw [Function.update_self] at hy
      obtain rfl := Option.some.inj hy
      exact .inl ⟨rfl, hid⟩
    · rw [Function.update_of_ne hx] at hy
      exact .inr ⟨hy, h.lt_next x y hy⟩
  constructor
  · intro x y hy
    rcases hback x y hy with ⟨-, hy⟩ | ⟨-, hy⟩
    · exact hy ▸ Nat.lt_succ_self _
    · exact Nat.lt_succ_of_lt hy
  · intro x x' y y' hy hy' heq
    rcases hback x y hy with ⟨rfl, h1⟩ | ⟨hy, h1⟩ <;>
      rcases hback x' y' hy' with ⟨rfl, h2⟩ | ⟨hy', h2⟩
    · rfl
    · exact absurd (heq ▸ h1) h2.ne
    · exact absurd (heq.trans h2) h1.ne
    · exact h.apart x x' y y' hy hy' heq

theorem Ids.mono {conns : ConnPtr → Option ApiConn} {n n' : RequestId} (h : Ids conns n)
    (hle : n ≤ n') : Ids conns n' :=
  ⟨fun ac c hc ↦ (h.lt_next ac c hc).trans_le hle, h.apart⟩

theorem Others.update {conns : ConnPtr → Option ApiConn} {ac : ConnPtr}
    (h : Others conns (some ac)) (v : Option ApiConn) :
    Others (Function.update conns ac v) (some ac) := by
  intro x c hc hx
  rw [Function.update_of_ne (by rintro rfl; exact hx rfl)] at hc
  exact h x c hc hx

/-- Once the thread leaves a connection, it is gone. -/
theorem Others.remove {conns : ConnPtr → Option ApiConn} {ac : ConnPtr}
    (h : Others conns (some ac)) : Others (Function.update conns ac none) none := by
  intro x c hc _
  have hx : x ≠ ac := by
    rintro rfl
    rw [Function.update_self] at hc
    exact absurd hc.symm (by simp)
  rw [Function.update_of_ne hx] at hc
  exact h x c hc (by simpa using hx.symm)

theorem Others.add {conns : ConnPtr → Option ApiConn} {ac : ConnPtr} {c : ApiConn}
    {at' : Option ConnPtr} (h : Others conns at') (hc : c.Untouched) :
    Others (Function.update conns ac (some c)) at' := by
  intro x y hy hx
  by_cases hxac : x = ac
  · subst hxac
    rw [Function.update_self] at hy
    exact Option.some.inj hy ▸ hc
  · rw [Function.update_of_ne hxac] at hy
    exact h x y hy hx

theorem Others.start {conns : ConnPtr → Option ApiConn} {at' : Option ConnPtr}
    (h : Others conns none) : Others conns at' := fun x c hc _ ↦ h x c hc (by simp)

/-! ## Where the thread is -/

section Phase

variable {s : Server} {ac : ConnPtr}

theorem phase_poll (h : s.api = .poll) : s.Phase ↔ s.Idle := by simp [Server.Phase, h]

theorem phase_close (h : s.api = .close ac) : s.Phase ↔ s.Idle := by simp [Server.Phase, h]

theorem phase_queue (h : s.api = .queue ac) :
    s.Phase ↔ s.Idle ∧ ∃ c, s.conns ac = some c ∧ c.Untouched := by simp [Server.Phase, h]

theorem phase_wake (h : s.api = .wake ac) : s.Phase ↔ s.InSlot ac := by
  simp [Server.Phase, h]

theorem phase_lock (h : s.api = .lock ac) : s.Phase ↔ s.InSlot ac := by
  simp [Server.Phase, h]

theorem phase_wait {timed : Bool} (h : s.api = .wait ac timed) : s.Phase ↔ s.InSlot ac := by
  simp [Server.Phase, h]

theorem phase_waited {done : Bool} (h : s.api = .waited ac done) :
    s.Phase ↔ s.Idle ∧ ∃ c, s.conns ac = some c ∧
      if done then c.progress = .handled else c.progress = .withdrawn ∧ c.resp = none := by
  simp [Server.Phase, h]

theorem phase_flush (h : s.api = .flush ac) :
    s.Phase ↔ s.Idle ∧ ∃ c, s.conns ac = some c ∧ ∀ code ∈ c.resp, c.MaySend code := by
  simp [Server.Phase, h]

theorem phase_of_idle (hidle : s.Idle) (h : s.api = .poll ∨ ∃ ac, s.api = .close ac) :
    s.Phase := by
  rcases h with h | ⟨ac, h⟩
  · exact (phase_poll h).mpr hidle
  · exact (phase_close h).mpr hidle

/-- Either the slot is empty, or a job is in it that the thread waits for. -/
theorem Server.Phase.idle_or_inSlot (h : s.Phase) :
    s.Idle ∨ ∃ ac, s.InSlot ac ∧ s.api.conn = some ac ∧
      (s.api = .wake ac ∨ s.api = .lock ac ∨ ∃ timed, s.api = .wait ac timed) := by
  cases hapi : s.api with
  | poll => exact .inl ((phase_poll hapi).mp h)
  | queue => exact .inl ((phase_queue hapi).mp h).1
  | wake ac => exact .inr ⟨ac, (phase_wake hapi).mp h, rfl, .inl rfl⟩
  | lock ac => exact .inr ⟨ac, (phase_lock hapi).mp h, rfl, .inr (.inl rfl)⟩
  | wait ac timed => exact .inr ⟨ac, (phase_wait hapi).mp h, rfl, .inr (.inr ⟨timed, rfl⟩)⟩
  | waited => exact .inl ((phase_waited hapi).mp h).1
  | flush => exact .inl ((phase_flush hapi).mp h).1
  | close => exact .inl ((phase_close hapi).mp h)

end Phase

/-! ## Control, step by step -/

theorem Server.modConn_of_some {s : Server} {ac : ConnPtr} {c : ApiConn} (hc : s.conns ac = some c)
    (f : ApiConn → ApiConn) :
    s.modConn ac f = { s with conns := Function.update s.conns ac (some (f c)) } := by
  simp [modConn, hc]

theorem Server.record_of_some {s : Server} {ac : ConnPtr} {c : ApiConn} (hc : s.conns ac = some c)
    (progress : Progress) (what : RequestId → Happened) :
    s.record ac progress what = { s with
      conns := Function.update s.conns ac (some { c with progress := progress })
      log := s.log ++ [what c.id] } := by
  simp [record, modConn, hc]

theorem control_start : Control Server.start where
  run := rfl
  ids := ⟨by simp [Server.start], by simp [Server.start]⟩
  others := by simp [Others, Server.start]
  phase := ⟨rfl, rfl, .inl rfl⟩

theorem control_accept {s : Server} (h : Control s) (hapi : s.api = .poll) (ac : ConnPtr) :
    Control (apiAccept s ac) := by
  have hidle := (phase_poll hapi).mp h.phase
  rw [apiAccept]
  split
  · exact ⟨h.run, h.ids.mono (Nat.le_succ _), h.others, phase_of_idle hidle (.inl hapi)⟩
  · split
    · exact h
    · exact ⟨h.run, h.ids.add rfl, h.others.add ⟨rfl, rfl⟩, phase_of_idle hidle (.inl hapi)⟩

theorem control_idle {s : Server} (h : Control s) (hapi : s.api = .poll) (ac : ConnPtr) :
    Control (apiClientClose s ac) := by
  have hidle := (phase_poll hapi).mp h.phase
  have hothers : Others s.conns none := by simpa [hapi, ApiPc.conn] using h.others
  rw [apiClientClose]
  split
  · exact h
  · exact ⟨h.run, h.ids.remove, by simpa [hapi, ApiPc.conn] using (hothers.start).remove,
      phase_of_idle hidle (.inl hapi)⟩

/-- `api_send` changes nothing but the response of the connection. -/
theorem apiSend_of_some {s : Server} {ac : ConnPtr} {c : ApiConn} (hc : s.conns ac = some c)
    (code : Option ℕ) :
    apiSend s ac code = { s with
      conns := Function.update s.conns ac (some { c with resp := code.or c.resp }) } := by
  cases code with
  | none => simp [apiSend, ← hc]
  | some code => simp [apiSend, Server.modConn, hc]

/-- The thread stores a response of its own. -/
theorem control_respond {s : Server} {ac : ConnPtr} {c : ApiConn} {code : Option ℕ}
    (hrun : s.threadRun = true) (hids : Ids s.conns s.nextId) (hothers : Others s.conns (some ac))
    (hidle : s.Idle) (hc : s.conns ac = some c)
    (hmay : ∀ n ∈ code.or c.resp, c.MaySend n) :
    Control { apiSend s ac code with api := .flush ac } := by
  rw [apiSend_of_some hc]
  refine ⟨hrun, hids.update hc rfl, hothers.update _, (phase_flush rfl).mpr
    ⟨hidle, { c with resp := code.or c.resp }, ?_, hmay⟩⟩
  exact Function.update_self ..

theorem control_read {s : Server} (h : Control s) (hapi : s.api = .poll) (ac : ConnPtr)
    (data : Bytes) (memory : Bool) : Control (apiClientRead s ac data memory) := by
  have hidle := (phase_poll hapi).mp h.phase
  have hothers : Others s.conns none := by simpa [hapi, ApiPc.conn] using h.others
  have hcode : ∀ (code n : ℕ), n ∈ (if memory then some code else none).or none → n = code := by
    intro code n hn
    cases memory <;> simp_all
  rw [apiClientRead]
  cases hc : s.conns ac with
  | none => exact h
  | some c =>
    have hnew := hothers ac c hc (by simp)
    simp only
    split
    · refine control_respond h.run h.ids hothers.start hidle hc fun n hn ↦ ?_
      rw [hnew.2] at hn
      exact .inr (.inr ⟨hnew.1, .inl (hcode _ _ hn)⟩)
    · split
      · exact ⟨h.run, h.ids, hothers.start, phase_of_idle hidle (.inr ⟨ac, rfl⟩)⟩
      · -- more of the request is there
        set c' : ApiConn := { c with buf := c.buf ++ data.take (apiConnBufSize - c.buf.length - 1) }
        have hc' : (s.modConn ac fun _ ↦ c').conns ac = some c' := by simp [Server.modConn, hc]
        have hids : Ids (s.modConn ac fun _ ↦ c').conns s.nextId := by
          rw [Server.modConn_of_some hc]
          exact h.ids.update hc rfl
        have hrest : Others (s.modConn ac fun _ ↦ c').conns none := by
          rw [Server.modConn_of_some hc]
          exact hothers.add hnew
        split
        · refine control_respond h.run hids hrest.start hidle hc' fun n hn ↦ ?_
          rw [show c'.resp = none from hnew.2] at hn
          exact .inr (.inr ⟨hnew.1, .inl (hcode _ _ hn)⟩)
        · split
          · exact ⟨h.run, hids, by simpa [Server.modConn, hapi, ApiPc.conn] using hrest,
              phase_of_idle hidle (.inl hapi)⟩
          · split
            · rename_i req hreq hhealth
              refine control_respond h.run hids hrest.start hidle hc' fun n hn ↦ ?_
              rw [show c'.resp = none from hnew.2] at hn
              exact .inr (.inr ⟨hnew.1, .inr ⟨hcode _ _ hn, by simp [hreq, hhealth]⟩⟩)
            · exact ⟨h.run, hids, hrest.start, (phase_queue rfl).mpr ⟨hidle, c', hc', hnew⟩⟩

/-- The thread waits on, or leaves with the job done, or takes back one that is still pending. -/
theorem apiWaitLoop_cases {s : Server} {ac : ConnPtr} {c : ApiConn} (timedOut : Bool)
    (hrun : s.threadRun = true) (hwork : AtWork ac c.id s.jobState s.main c.progress c.resp) :
    (∃ timed, apiWaitLoop s ac timedOut = { s with api := .wait ac timed }) ∨
    (c.progress = .handled ∧ s.main.Away ∧ apiWaitLoop s ac timedOut =
      { s with jobConn := none, jobState := .none, api := .waited ac true }) ∨
    (c.progress = .queued ∧ c.resp = none ∧ s.main.Away ∧ apiWaitLoop s ac timedOut =
      { s.record ac .withdrawn .withdrawn with
        jobConn := none, jobState := .none, api := .waited ac false }) := by
  rw [apiWaitLoop, hrun]
  split
  · rename_i hleave
    by_cases hdone : s.jobState = .done
    · obtain ⟨haway, hprogress⟩ := (hdone ▸ hwork).of_done
      exact .inr (.inl ⟨hprogress, haway, by simp [hdone, hrun]⟩)
    · have hpending : s.jobState = .pending := by
        rcases hleave with h | h | h
        · exact h.2
        · exact absurd (of_decide_eq_true h) hdone
        · exact absurd h (by simp)
      obtain ⟨haway, hprogress, hresp⟩ := (hpending ▸ hwork).of_pending
      exact .inr (.inr ⟨hprogress, hresp, haway, by simp [hdone]⟩)
  · exact .inl ⟨_, rfl⟩

theorem control_waitLoop {s : Server} {ac : ConnPtr} (hrun : s.threadRun = true)
    (hids : Ids s.conns s.nextId) (hothers : Others s.conns (some ac)) (hslot : s.InSlot ac)
    (timedOut : Bool) : Control (apiWaitLoop s ac timedOut) := by
  have ⟨hconn, c, hc, hreq, hwork⟩ := hslot
  rcases apiWaitLoop_cases timedOut hrun hwork with
    ⟨timed, heq⟩ | ⟨hprogress, haway, heq⟩ | ⟨hprogress, hresp, haway, heq⟩ <;> rw [heq]
  · exact ⟨hrun, hids, hothers, (phase_wait rfl).mpr hslot⟩
  · exact ⟨hrun, hids, hothers,
      (phase_waited rfl).mpr ⟨⟨rfl, rfl, haway⟩, c, hc, by simpa using hprogress⟩⟩
  · rw [Server.record_of_some hc]
    exact ⟨hrun, hids.update hc rfl, hothers.update _,
      (phase_waited rfl).mpr ⟨⟨rfl, rfl, haway⟩, { c with progress := .withdrawn },
        Function.update_self .., by simpa using hresp⟩⟩

/-- A request is put into the slot. -/
theorem apiStep_queue {s : Server} {ac : ConnPtr} {c : ApiConn} (hapi : s.api = .queue ac)
    (hc : s.conns ac = some c) (memory timeUp : Bool) : apiStep s memory timeUp = { s with
      conns := Function.update s.conns ac (some { c with progress := .queued })
      log := s.log ++ [.queued c.id]
      jobReq := c.id
      jobConn := some ac
      jobState := .pending
      api := .wake ac } := by
  simp [apiStep, hapi, Server.reqOf, hc, Server.record, Server.modConn]

theorem control_api {s : Server} (h : Control s) (memory timeUp : Bool) :
    Control (apiStep s memory timeUp) := by
  have hothers := h.others
  cases hapi : s.api with
  | poll => simpa only [apiStep, hapi] using h
  | queue ac =>
    obtain ⟨⟨hstate, hconn, haway⟩, c, hc, hnew⟩ := (phase_queue hapi).mp h.phase
    rw [hapi] at hothers
    rw [apiStep_queue hapi hc]
    refine ⟨h.run, h.ids.update hc rfl, hothers.update _, (phase_wake rfl).mpr
      ⟨rfl, { c with progress := .queued }, Function.update_self .., rfl, ?_⟩⟩
    rw [hnew.2]
    exact .pending haway
  | wake ac =>
    rw [hapi] at hothers
    simp only [apiStep, hapi]
    exact ⟨h.run, h.ids, hothers, (phase_lock rfl).mpr ((phase_wake hapi).mp h.phase)⟩
  | lock ac =>
    rw [hapi] at hothers
    simp only [apiStep, hapi]
    exact control_waitLoop h.run h.ids hothers ((phase_lock hapi).mp h.phase) false
  | wait ac timed =>
    rw [hapi] at hothers
    simp only [apiStep, hapi]
    exact control_waitLoop h.run h.ids hothers ((phase_wait hapi).mp h.phase) _
  | waited ac done =>
    obtain ⟨hidle, c, hc, hdone⟩ := (phase_waited hapi).mp h.phase
    rw [hapi] at hothers
    simp only [apiStep, hapi]
    refine control_respond h.run h.ids hothers hidle hc fun n hn ↦ ?_
    cases done with
    | true => exact .inr (.inl (by simpa using hdone))
    | false =>
      have hresp : c.resp = none := by simpa using hdone.2
      cases memory <;> simp_all [ApiConn.MaySend]
  | flush ac =>
    obtain ⟨hidle, c, hc, hmay⟩ := (phase_flush hapi).mp h.phase
    rw [hapi] at hothers
    simp only [apiStep, hapi]
    simp only [apiFlush, hc]
    cases c.resp with
    | none => exact ⟨h.run, h.ids, hothers, phase_of_idle hidle (.inr ⟨ac, rfl⟩)⟩
    | some code =>
      simp only [Server.modConn_of_some hc]
      exact ⟨h.run, h.ids.update hc rfl, hothers.update _, phase_of_idle hidle (.inr ⟨ac, rfl⟩)⟩
  | close ac =>
    have hidle := (phase_close hapi).mp h.phase
    rw [hapi] at hothers
    simp only [apiStep, hapi]
    simp only [apiClientClose]
    cases hc : s.conns ac with
    | none =>
      refine ⟨h.run, h.ids, fun x c hx _ ↦ hothers x c hx ?_, phase_of_idle hidle (.inl rfl)⟩
      rintro ⟨⟩
      exact absurd (hc.symm.trans hx) (by simp)
    | some c =>
      exact ⟨h.run, h.ids.remove, hothers.remove, phase_of_idle hidle (.inl rfl)⟩

/-- Where a job is in the slot, the thread stays, and only the job goes on. -/
theorem phase_of_inSlot {s s' : Server} {ac : ConnPtr} (hapi : s'.api = s.api)
    (hpc : s.api = .wake ac ∨ s.api = .lock ac ∨ ∃ timed, s.api = .wait ac timed)
    (hslot : s'.InSlot ac) : s'.Phase := by
  rcases hpc with h | h | ⟨timed, h⟩
  · exact (phase_wake (hapi.trans h)).mpr hslot
  · exact (phase_lock (hapi.trans h)).mpr hslot
  · exact (phase_wait (hapi.trans h)).mpr hslot

/-- While it is not at work on a job, the main loop goes where it likes. -/
theorem Server.Phase.away {s s' : Server} (h : s.Phase) (hapi : s'.api = s.api)
    (hconns : s'.conns = s.conns) (hconn : s'.jobConn = s.jobConn) (hreq : s'.jobReq = s.jobReq)
    (hstate : s'.jobState = s.jobState) (hm : s.main.Away) (hm' : s'.main.Away) : s'.Phase := by
  have hidle : s.Idle → s'.Idle := fun h ↦ ⟨hstate.trans h.1, hconn.trans h.2.1, hm'⟩
  have hslot (ac : ConnPtr) : s.InSlot ac → s'.InSlot ac := by
    rintro ⟨h1, c, h2, h3, h4⟩
    exact ⟨hconn.trans h1, c, (congrFun hconns ac).trans h2, hreq.trans h3,
      hstate ▸ h4.away hm hm'⟩
  unfold Server.Phase at h ⊢
  rw [hapi]
  split at h
  · exact hidle h
  · exact hidle h
  · exact ⟨hidle h.1, hconns ▸ h.2⟩
  · exact hslot _ h
  · exact hslot _ h
  · exact hslot _ h
  · exact ⟨hidle h.1, hconns ▸ h.2⟩
  · exact ⟨hidle h.1, hconns ▸ h.2⟩

/-- What is in the slot while the main loop is at work. -/
theorem Control.inSlot {s : Server} (h : Control s) (hm : ¬ s.main.Away) :
    ∃ ac, s.InSlot ac ∧ s.api.conn = some ac ∧
      (s.api = .wake ac ∨ s.api = .lock ac ∨ ∃ timed, s.api = .wait ac timed) :=
  h.phase.idle_or_inSlot.resolve_left fun hidle ↦ hm hidle.2.2

theorem control_main {s : Server} (h : Control s) (code : Option ℕ) :
    Control (mainStep s code) := by
  cases hmain : s.main with
  | select =>
    simp only [mainStep, hmain]
    split
    · exact h
    · exact ⟨h.run, h.ids, h.others, h.phase.away rfl rfl rfl rfl rfl (.inl hmain) (.inr rfl)⟩
  | drained =>
    simp only [mainStep, hmain]
    split
    · rename_i hpending
      -- a job is in the slot
      rcases h.phase.idle_or_inSlot with hidle | ⟨ac, hslot, -, hpc⟩
      · exact absurd (hidle.1.symm.trans hpending) (by simp)
      · obtain ⟨hconn, c, hc, hreq, hwork⟩ := hslot
        obtain ⟨-, hprogress, hresp⟩ := (hpending ▸ hwork).of_pending
        refine ⟨h.run, h.ids, h.others, phase_of_inSlot (s := s) rfl hpc
          ⟨hconn, c, hc, hreq, ?_⟩⟩
        simp only [hconn, hreq, hprogress, hresp]
        exact .handle
    · exact ⟨h.run, h.ids, h.others, h.phase.away rfl rfl rfl rfl rfl (.inr hmain) (.inl rfl)⟩
  | handle ac job =>
    obtain ⟨ac, ⟨hconn, c, hc, hreq, hwork⟩, hat, hpc⟩ :=
      h.inSlot (by simp [hmain, MainPc.Away])
    obtain ⟨rfl, rfl, hstate, -, -⟩ := (hmain ▸ hwork).of_handle
    simp only [mainStep, hmain, Server.modConn_of_some hc]
    refine ⟨h.run, h.ids.update hc rfl, ?_, phase_of_inSlot (s := s) rfl hpc
      ⟨hconn, { c with progress := .handled }, Function.update_self .., hreq, ?_⟩⟩
    · exact hat ▸ (hat ▸ h.others).update _
    · rw [hstate]
      exact .send
  | send ac job =>
    obtain ⟨ac, ⟨hconn, c, hc, hreq, hwork⟩, hat, hpc⟩ :=
      h.inSlot (by simp [hmain, MainPc.Away])
    obtain ⟨rfl, rfl, hstate, hprogress⟩ := (hmain ▸ hwork).of_send
    simp only [mainStep, hmain, apiSend_of_some hc]
    refine ⟨h.run, h.ids.update hc rfl, ?_, phase_of_inSlot (s := s) rfl hpc
      ⟨hconn, { c with resp := code.or c.resp }, Function.update_self .., hreq, ?_⟩⟩
    · exact hat ▸ (hat ▸ h.others).update _
    · simp only [hstate, hprogress]
      exact .finish
  | finish =>
    obtain ⟨ac, ⟨hconn, c, hc, hreq, hwork⟩, hat, hpc⟩ :=
      h.inSlot (by simp [hmain, MainPc.Away])
    obtain ⟨-, hprogress⟩ := (hmain ▸ hwork).of_finish
    simp only [mainStep, hmain]
    refine ⟨h.run, h.ids, h.others, phase_of_inSlot (s := s) rfl hpc ⟨hconn, c, hc, hreq, ?_⟩⟩
    rw [hprogress]
    exact .done (.inl rfl)

/-- **One step.** -/
theorem control_step {s : Server} (h : Control s) (t : Turn) : Control (s.step t) := by
  cases t with
  | accept ac =>
    rw [Server.step]
    split
    · exact control_accept h ‹_› ac
    · exact h
  | idle ac =>
    rw [Server.step]
    split
    · exact control_idle h ‹_› ac
    · exact h
  | read ac data memory =>
    rw [Server.step]
    split
    · exact control_read h ‹_› ac data memory
    · exact h
  | api memory timeUp => exact control_api h memory timeUp
  | main code => exact control_main h code

end OsmoSgsn.Api
