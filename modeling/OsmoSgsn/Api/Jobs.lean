import OsmoSgsn.Basic
import OsmoSgsn.Library.Machine

/-!
# Jobs of the HTTP interface

A thread of its own reads the requests of the HTTP interface, and the main loop answers them, since
all state of the gateway is the main loop's. One request at a time is handed over, through a slot
that a lock protects: the thread puts it there and waits, the main loop picks it up and says when it
is done. A request that is not picked up in time is taken back.

## The steps

What either side does under the lock is one step, and so is every stretch between two locks. Which
side goes next is up to the scheduler, as is when a wait ends: a wait that is limited may end
because time is up, and every wait may end for no reason at all. The pipe that wakes the main loop
may hold octets of jobs that have long been taken back.

## The invariant

While the thread waits, the connection of its job is open, and the state of the slot says how far
the main loop is with it; while it does not, the slot is empty, and the main loop is not at work on
any job. So nothing that the main loop holds is ever closed.
-/

namespace OsmoSgsn.Api

/-! ## Requests -/

/-- Where a text begins in another, `strstr`. -/
def strstr (pat : Bytes) : Bytes → Option ℕ
  | [] => if pat = [] then some 0 else none
  | b :: s => if pat.isPrefixOf (b :: s) then some 0 else (strstr pat s).map (· + 1)

/-- Where an octet is in a text, `strchr`. -/
def strchr (c : UInt8) (s : Bytes) : Option ℕ := s.findIdx? (· = c)

/-- What is before the octet that ends a text. -/
def cString (buf : Bytes) : Bytes := buf.takeWhile (· ≠ 0)

/-- The octets of a text. -/
def ascii (s : String) : Bytes := s.toList.map fun c ↦ .ofNat c.toNat

/-- `parse_path`: the method and the path of a request, within the sizes that the caller has for
them. -/
def parsePath (req : Bytes) (methodLen pathLen : ℕ) : Option (Bytes × Bytes) := do
  let eol ← (strstr (ascii "\r\n") req).orElse fun _ ↦ strchr 10 req
  let sp1 ← strchr 32 req
  if eol ≤ sp1 then none
  let sp2 ← strchr 32 (req.drop (sp1 + 1))
  if eol ≤ sp1 + 1 + sp2 then none
  if sp1 = 0 ∨ methodLen ≤ sp1 then none
  if sp2 = 0 ∨ pathLen ≤ sp2 then none
  let target := (req.drop (sp1 + 1)).take sp2
  let path := target.takeWhile (· ≠ 63)
  if path = [] then none
  if octet path 0 ≠ 47 then none
  pure (req.take sp1, path)

/-- `api_is_health`. -/
def apiIsHealth (req : Bytes) : Bool := (parsePath req 16 256).any (·.2 = ascii "/health")

/-! ## State -/

/-- Which request it is; a history variable, unlike the pointer to its connection. -/
abbrev RequestId := ℕ

abbrev ConnPtr := ℕ

/-- How far the hand-over of a request has come. -/
inductive Progress
  | fresh | queued | handled | withdrawn
  deriving DecidableEq, Repr

/-- `struct api_conn`. Of the response there is the status code. -/
structure ApiConn where
  buf : Bytes
  resp : Option ℕ
  /-- History: the request of the connection, and its progress. -/
  id : RequestId
  progress : Progress
  deriving DecidableEq, Repr

/-- The text of a request, once all of its header is there. -/
def ApiConn.request (c : ApiConn) : Option Bytes :=
  (strstr (ascii "\r\n\r\n") (cString c.buf)).map fun hdrEnd ↦ (cString c.buf).take hdrEnd

/-- `enum api_job_state`. -/
inductive ApiJobState
  | none | pending | running | done
  deriving DecidableEq, Repr

/-- Where the thread of the interface is. -/
inductive ApiPc
  /-- Waiting for any connection. -/
  | poll
  /-- `api_run_in_main`, before the job is in the slot. -/
  | queue (ac : ConnPtr)
  /-- Before the write to the pipe. -/
  | wake (ac : ConnPtr)
  /-- Before the lock that it waits under. -/
  | lock (ac : ConnPtr)
  /-- In a wait, that may be limited. -/
  | wait (ac : ConnPtr) (timed : Bool)
  /-- After the wait. -/
  | waited (ac : ConnPtr) (done : Bool)
  | flush (ac : ConnPtr)
  | close (ac : ConnPtr)
  deriving DecidableEq, Repr

/-- Where the main loop is. -/
inductive MainPc
  /-- Anywhere else. -/
  | select
  /-- `api_wake_cb`, after the pipe has been read. -/
  | drained
  /-- Before `handle_request`, with the connection that was in the slot. -/
  | handle (ac : ConnPtr) (job : RequestId)
  /-- In `handle_request`, before `api_send`. -/
  | send (ac : ConnPtr) (job : RequestId)
  /-- Before the lock under which the job is done. -/
  | finish
  deriving DecidableEq, Repr

/-- What has happened. -/
inductive Happened
  /-- `handle_request` was called, or has sent, for a job; and whose connection the pointer is. -/
  | handled (job : RequestId) (conn : Option RequestId)
  | answered (job : RequestId) (conn : Option RequestId)
  /-- A job was put into the slot, or taken back. -/
  | queued (job : RequestId)
  | withdrawn (job : RequestId)
  /-- A response was sent. -/
  | sent (id : RequestId) (request : Option Bytes) (code : ℕ)
  deriving DecidableEq, Repr

/-- Both sides and what they share. -/
structure Server where
  conns : ConnPtr → Option ApiConn
  clientCount : ℕ
  jobConn : Option ConnPtr
  jobState : ApiJobState
  /-- Octets in the pipe. -/
  pipe : ℕ
  threadRun : Bool
  api : ApiPc
  main : MainPc
  /-- History: the request that was put into the slot last, the number of the next request, and what
  has happened. -/
  jobReq : RequestId
  nextId : RequestId
  log : List Happened

/-- An interface that was just started. -/
def Server.start : Server where
  conns _ := none
  clientCount := 0
  jobConn := none
  jobState := .none
  pipe := 0
  threadRun := true
  api := .poll
  main := .select
  jobReq := 0
  nextId := 0
  log := []

def apiConnBufSize : ℕ := 64 * 1024
def sgsnApiMaxClients : ℕ := 16

/-! ## Steps -/

/-- The request that the connection of a pointer has brought. -/
def Server.reqOf (s : Server) (ac : ConnPtr) : Option RequestId := (s.conns ac).map (·.id)

/-- Change a connection. -/
def Server.modConn (s : Server) (ac : ConnPtr) (f : ApiConn → ApiConn) : Server :=
  { s with conns := Function.update s.conns ac ((s.conns ac).map f) }

/-- Record what has happened, and how far a request has come with it. -/
def Server.record (s : Server) (ac : ConnPtr) (progress : Progress)
    (what : RequestId → Happened) : Server :=
  match s.conns ac with
  | none => s
  | some c => { s.modConn ac fun c ↦ { c with progress := progress } with
      log := s.log ++ [what c.id] }

/-- `api_send`, which stores a response if there is memory for one. -/
def apiSend (s : Server) (ac : ConnPtr) (code : Option ℕ) : Server :=
  match code with
  | none => s
  | some code => s.modConn ac fun c ↦ { c with resp := some code }

/-- `api_flush`. -/
def apiFlush (s : Server) (ac : ConnPtr) : Server :=
  match s.conns ac with
  | none => s
  | some c =>
    match c.resp with
    | none => s
    | some code => { s.modConn ac fun c ↦ { c with resp := none } with
        log := s.log ++ [.sent c.id c.request code] }

/-- `api_client_close`. -/
def apiClientClose (s : Server) (ac : ConnPtr) : Server :=
  match s.conns ac with
  | none => s
  | some _ =>
    { s with conns := Function.update s.conns ac none, clientCount := s.clientCount - 1 }

/-- `api_accept_all`, for one connection and the pointer that the allocator returns, which is not in
use. -/
def apiAccept (s : Server) (ac : ConnPtr) : Server :=
  if sgsnApiMaxClients ≤ s.clientCount then
    { s with nextId := s.nextId + 1, log := s.log ++ [.sent s.nextId none 503] }
  else
    match s.conns ac with
    | some _ => s
    | none => { s with
        conns := Function.update s.conns ac (some ⟨[], none, s.nextId, .fresh⟩)
        clientCount := s.clientCount + 1
        nextId := s.nextId + 1 }

/-- `api_client_read`, up to the response: what was read, and whether there is memory for a
response. -/
def apiClientRead (s : Server) (ac : ConnPtr) (data : Bytes) (memory : Bool) : Server :=
  let response (code : ℕ) := if memory then some code else none
  match s.conns ac with
  | none => s
  | some c =>
    -- one octet is kept for the end of the text
    if apiConnBufSize - 1 ≤ c.buf.length then
      { apiSend s ac (response 413) with api := .flush ac }
    else if data = [] then { s with api := .close ac }
    else
      let c := { c with buf := c.buf ++ data.take (apiConnBufSize - c.buf.length - 1) }
      let s := s.modConn ac fun _ ↦ c
      if apiConnBufSize ≤ c.buf.length + 1 then
        { apiSend s ac (response 413) with api := .flush ac }
      else
        match c.request with
        | none => s
        | some req =>
          if apiIsHealth req then { apiSend s ac (response 200) with api := .flush ac }
          else { s with api := .queue ac }

/-- The loop of `api_run_in_main` under the lock: wait once more, or leave with what was reached. -/
def apiWaitLoop (s : Server) (ac : ConnPtr) (timedOut : Bool) : Server :=
  let done := decide (s.jobState = .done)
  -- time is up only for a job that has not been picked up
  if timedOut ∧ s.jobState = .pending ∨ done ∨ s.threadRun = false then
    let s := if done then s else s.record ac .withdrawn .withdrawn
    { s with jobConn := none, jobState := .none, api := .waited ac done }
  else { s with api := .wait ac (s.jobState = .pending) }

/-- The next step of the thread once it is at work on a connection: whether there is memory for a
response, and whether time is up. -/
def apiStep (s : Server) (memory timeUp : Bool) : Server :=
  match s.api with
  | .poll => s
  | .queue ac =>
    let s := { s with jobReq := (s.reqOf ac).getD s.jobReq }
    { s.record ac .queued .queued with jobConn := some ac, jobState := .pending, api := .wake ac }
  | .wake ac => { s with pipe := s.pipe + 1, api := .lock ac }
  | .lock ac => apiWaitLoop s ac false
  | .wait ac timed => apiWaitLoop s ac (timed && timeUp)
  | .waited ac done =>
    { apiSend s ac (if done = false ∧ memory then some 503 else none) with api := .flush ac }
  | .flush ac => { apiFlush s ac with api := .close ac }
  | .close ac => { apiClientClose s ac with api := .poll }

/-- The next step of the main loop, and the response that `handle_request` stores, if any. -/
def mainStep (s : Server) (code : Option ℕ) : Server :=
  match s.main with
  -- all octets are read at once, so they may have been written for several jobs
  | .select => if s.pipe = 0 then s else { s with pipe := 0, main := .drained }
  | .drained =>
    if s.jobState = .pending then { s with
      jobState := .running
      main := match s.jobConn with
        | some ac => .handle ac s.jobReq
        | none => .select }
    else { s with main := .select }
  | .handle ac job =>
    { s.modConn ac fun c ↦ { c with progress := .handled } with
      log := s.log ++ [.handled job (s.reqOf ac)]
      main := .send ac job }
  | .send ac job =>
    { apiSend s ac code with log := s.log ++ [.answered job (s.reqOf ac)], main := .finish }
  | .finish => { s with jobState := .done, main := .select }

/-- Who goes next, and with what. -/
inductive Turn
  | accept (ac : ConnPtr)
  /-- `api_idle_sweep` closes a connection. -/
  | idle (ac : ConnPtr)
  | read (ac : ConnPtr) (data : Bytes) (memory : Bool)
  | api (memory timeUp : Bool)
  | main (code : Option ℕ)
  deriving DecidableEq, Repr

/-- One step. The thread looks at other connections only when it is not at work on one. -/
def Server.step (s : Server) : Turn → Server
  | .accept ac => if s.api = .poll then apiAccept s ac else s
  | .idle ac => if s.api = .poll then apiClientClose s ac else s
  | .read ac data memory => if s.api = .poll then apiClientRead s ac data memory else s
  | .api memory timeUp => apiStep s memory timeUp
  | .main code => mainStep s code

/-- The machine of both sides. -/
def apiMachine : Machine Server Turn Empty where
  step s t := (s.step t, [])

end OsmoSgsn.Api
