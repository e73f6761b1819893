import DoorSwitchSvr.SwitchRun

/-!
# The server

The engine with all its handlers and their threads, from its construction to its
destruction: the messages of the broker as the proxy passes them on, the steps of the
threads of every handler, and the destructor of the engine, which calls `close` on one
handler after another.  The proxy is destroyed before the engine, so no message comes any
more when the destructor runs.

Nothing catches an exception that leaves the callback of the proxy or the io thread of a
handler: it ends the process.

A run of the server is, for each configured switch, a run of that switch alone (`run_view_of_run`):
of its own requests and threads, as long as every switch that is requested for the first
time has an id above those of the handlers, and the literal of an address as its ip
(`SwitchesAbove`).  So what has been sent to a switch, and the state of its doors, does not
depend on what the other switches are sent or do (`view_eq_of_seen_eq`).
-/

namespace DoorSwitchSvr

open Transition DoorSwitchEngine

/-! ### The proxy -/

/-- A message of the broker, with the characters of its payload if it has one. -/
structure mosquitto_message where
  topic : String
  payload : Option (List Char)
  deriving DecidableEq

/-- What the proxy passes to the callback: the payload of a message with the configured topic,
up to the first NUL. -/
def DoorSwitchMqttProxy.on_message (m_topic : String) (message : mosquitto_message) :
    Option String :=
  match message.payload with
  | none => none
  | some payload =>
      if message.topic = m_topic then
        some (String.ofList (payload.takeWhile (fun c => c.toNat ≠ 0)))
      else none

/-! ### The server -/

/-- Where the server is: receiving messages; in the destructor of the engine, with the ids of
the handlers that are still to be closed, from the one at which it is; done; or ended by an
exception. -/
inductive Life where
  | serving
  | closing (rest : List String)
  | destroyed
  | aborted
  deriving DecidableEq

/-- The handler that is being closed. -/
def Life.current : Life → Option String
  | .closing (oid :: _) => some oid
  | .serving | .closing [] | .destroyed | .aborted => none

/-- The engine, what belongs to each of its handlers, and where the server is. -/
structure Server where
  engine : DoorSwitchEngine
  threads : String → Threads
  life : Life

namespace Server

/-- What happens next.

* `message`: a message of the broker, with the outcome of the connection attempt that it may
  make, and whether the pool has a free thread for the timer that it may start.
* `handler`: a step of a thread of a handler, or of `close` on it.
* `terminate`: the server is told to terminate, and the proxy is destroyed.
* `closed`: `close` has returned, and the destructor goes to the next handler.
* `clear`: the handlers are destroyed. -/
inductive Action where
  | message (message : mosquitto_message) (error free : Bool)
  | handler (oid : String) (a : Closing.Action)
  | terminate
  | closed
  | clear
  deriving DecidableEq

/-- `close` is only called by the destructor of the engine, and the threads run until the
process ends. -/
def Allows (life : Life) (oid : String) : Closing.Action → Prop
  | .close => life.current = some oid
  | .work _ _ | .thread _ _ | .timer _ => life ≠ .aborted

instance (life : Life) (oid : String) : (a : Closing.Action) → Decidable (Allows life oid a)
  | .close => inferInstanceAs (Decidable (_ = _))
  | .work _ _ | .thread _ _ | .timer _ => inferInstanceAs (Decidable (_ ≠ _))

section Run

variable (parse : String → Option OpenDoorRequest) (from_string : String → Bool)
  (m_topic : String)

/-- What a message of the broker leads to. -/
def receive (engine : DoorSwitchEngine) (message : mosquitto_message) (error free : Bool) :
    Received :=
  match DoorSwitchMqttProxy.on_message m_topic message with
  | none => ⟨engine, [], false⟩
  | some text => engine.onRecvMqttMessage parse from_string text error free

/-- The state after an action. -/
def next (s : Server) : Action → Option Server
  | .message message error free =>
      if s.life = .serving then
        let r := receive parse from_string m_topic s.engine message error free
        some { s with engine := r.engine, life := if r.thrown then .aborted else .serving }
      else none
  | .handler oid a =>
      if Allows s.life oid a then
        (s.engine.m_mapOidSwitchHandler.find oid).bind (fun h =>
          ((s.threads oid).step h a).map (fun x =>
            { engine := s.engine.setHandler oid x.1
              threads := Function.update s.threads oid x.2
              life := if x.2.thread none = .thrown then .aborted else s.life }))
      else none
  | .terminate =>
      if s.life = .serving then
        some { s with life := .closing s.engine.m_mapOidSwitchHandler.keys }
      else none
  | .closed =>
      match s.life with
      | .closing (oid :: rest) =>
          if (s.threads oid).closer = .returned then some { s with life := .closing rest }
          else none
      | .serving | .closing [] | .destroyed | .aborted => none
  | .clear =>
      if s.life = .closing [] then
        some { s with engine.m_mapOidSwitchHandler := .empty, life := .destroyed }
      else none

/-- A server that has just been constructed. -/
def initial (m_config : SvrCfg) : Server := ⟨{ m_config := m_config }, fun _ => {}, .serving⟩

/-- The request in a message, with its switch, if it is passed on and accepted. -/
def requestIn (m_config : SvrCfg) (message : mosquitto_message) :
    Option (OpenDoorRequest × SwitchInfo) :=
  (DoorSwitchMqttProxy.on_message m_topic message).bind (acceptedRequest parse m_config)

/-- The action is not the first request for a switch below one that has a handler, or for a
switch whose ip is not the literal of an address. -/
def SwitchesAbove (s : Server) : Action → Prop
  | .message message _ _ =>
      ∀ x ∈ requestIn parse m_topic s.engine.m_config message,
        s.engine.m_mapOidSwitchHandler.find x.1.m_strSwitchId = none →
          from_string x.2.ip = true
            ∧ ∀ k ∈ s.engine.m_mapOidSwitchHandler.keys, k < x.1.m_strSwitchId
  | .handler _ _ | .terminate | .closed | .clear => True

instance (s : Server) : (a : Action) → Decidable (SwitchesAbove parse from_string m_topic s a)
  | .message message _ _ =>
      haveI (x : OpenDoorRequest × SwitchInfo) : Decidable
          (s.engine.m_mapOidSwitchHandler.find x.1.m_strSwitchId = none) :=
        decidable_of_iff _ Option.isNone_iff_eq_none
      inferInstanceAs (Decidable (∀ x ∈ requestIn parse m_topic s.engine.m_config message,
        s.engine.m_mapOidSwitchHandler.find x.1.m_strSwitchId = none →
          from_string x.2.ip = true
            ∧ ∀ k ∈ s.engine.m_mapOidSwitchHandler.keys, k < x.1.m_strSwitchId))
  | .handler _ _ | .terminate | .closed | .clear => isTrue trivial

/-- What an action is for a switch. -/
def seen (m_config : SvrCfg) (oid : String) : Action → List SwitchRun.Action
  | .message message error free =>
      match requestIn parse m_topic m_config message with
      | none => []
      | some (req, _) => if req.m_strSwitchId = oid then [.request req error free] else []
  | .handler oid' a => if oid' = oid then [.handler a] else []
  | .clear => [.destroy]
  | .terminate | .closed => []

end Run

/-- One switch of the server. -/
def view (s : Server) (oid : String) : SwitchRun :=
  ⟨s.engine.m_mapOidSwitchHandler.find oid, s.threads oid⟩

variable {parse : String → Option OpenDoorRequest} {from_string : String → Bool}
  {m_topic : String}

/-! ### Messages -/

theorem requestIn_of_on_message {m_config : SvrCfg} {message : mosquitto_message} {text : String}
    (h : DoorSwitchMqttProxy.on_message m_topic message = some text) :
  requestIn parse m_topic m_config message = acceptedRequest parse m_config text
  := by
  rw [requestIn, h, Option.bind_some]

@[simp]
theorem m_config_receive (engine : DoorSwitchEngine) (message : mosquitto_message)
    (error free : Bool) :
  (receive parse from_string m_topic engine message error free).engine.m_config = engine.m_config
  := by
  rw [receive]
  split
  next => rfl
  next text _ => apply (receives parse from_string engine text error free).m_config_eq

/-- A message that is not accepted changes nothing. -/
theorem receive_of_none {engine : DoorSwitchEngine} {message : mosquitto_message}
    (h : requestIn parse m_topic engine.m_config message = none) (error free : Bool) :
  receive parse from_string m_topic engine message error free = ⟨engine, [], false⟩
  := by
  rw [receive]
  split
  next => rfl
  next text htext =>
    rw [requestIn_of_on_message htext] at h
    rw [onRecvMqttMessage_rejected h]

/-- A message that is accepted is a request for the switch that it names, and changes no other
handler, unless it first requests a switch below one that has a handler, or with an ip that
is not the literal of an address. -/
theorem find_receive {s : Server} {message : mosquitto_message} {error free : Bool}
    (hok : SwitchesAbove parse from_string m_topic s (.message message error free))
    {req : OpenDoorRequest} {info : SwitchInfo}
    (haccept : requestIn parse m_topic s.engine.m_config message = some (req, info))
    (oid : String) :
  (receive parse from_string m_topic s.engine message error
      free).engine.m_mapOidSwitchHandler.find oid
    = if req.m_strSwitchId = oid then
        some (SwitchRun.receive info req error free (s.engine.m_mapOidSwitchHandler.find oid))
      else s.engine.m_mapOidSwitchHandler.find oid
  := by
  obtain ⟨text, htext, haccept'⟩ := Option.bind_eq_some_iff.mp haccept
  have hoid := acceptedRequest_oid haccept'
  rw [receive, htext]
  simp only
  cases hfind : s.engine.m_mapOidSwitchHandler.find req.m_strSwitchId with
  | some h =>
      rw [onRecvMqttMessage_known haccept' hfind]
      simp only [setHandler, OrdMap.find_modify]
      split_ifs with heq heq' heq'
      · rw [← heq', hfind]
        rfl
      · apply absurd heq.symm heq'
      · apply absurd heq'.symm heq
      · rfl
  | none =>
      obtain ⟨hip, habove⟩ := hok (req, info) haccept hfind
      rw [← hoid] at habove
      have hlast := OrdMap.crbegin_insert_of_above
        ({ m_switchInfo := info } : DoorSwitchHandler) habove
      rw [onRecvMqttMessage_new haccept' hfind hip hlast]
      simp only [OrdMap.find_modify]
      split_ifs with heq heq' heq'
      · rw [← heq', hfind, OrdMap.find_insert_self _ (by rw [hoid, hfind])]
        rfl
      · rw [heq, hoid] at heq'
        apply absurd rfl heq'
      · rw [hoid] at heq
        apply absurd heq'.symm heq
      · rw [OrdMap.find_insert_of_ne _ _ heq]

/-! ### Steps -/

/-- A step of a thread of a handler, or of `close` on it.  An exception that leaves the io
thread ends the process. -/
theorem next_handler {s t : Server} {oid : String} {a : Closing.Action}
    (h : next parse from_string m_topic s (.handler oid a) = some t) :
  ∃ handler x, s.engine.m_mapOidSwitchHandler.find oid = some handler
    ∧ Allows s.life oid a ∧ (s.threads oid).step handler a = some x
    ∧ t = { engine := s.engine.setHandler oid x.1
            threads := Function.update s.threads oid x.2
            life := if x.2.thread none = .thrown then .aborted else s.life }
  := by
  rw [next] at h
  split_ifs at h with hallows
  obtain ⟨handler, hfind, hmap⟩ := Option.bind_eq_some_iff.mp h
  obtain ⟨x, hstep, rfl⟩ := Option.map_eq_some_iff.mp hmap
  use handler, x, hfind, hallows, hstep

/-- A step on a handler leaves the server where it is, unless it ends the process. -/
theorem life_handler {s t : Server} {oid : String} {a : Closing.Action} {life : Life}
    (h : next parse from_string m_topic s (.handler oid a) = some t) (hlife : t.life = life)
    (hne : life ≠ .aborted) :
  s.life = life
  := by
  obtain ⟨handler, x, -, -, -, rfl⟩ := next_handler h
  simp only at hlife
  split_ifs at hlife
  · apply absurd hlife.symm hne
  · apply hlife

theorem next_message {s t : Server} {message : mosquitto_message} {error free : Bool}
    (h : next parse from_string m_topic s (.message message error free) = some t) :
  s.life = .serving
    ∧ t = { s with
        engine := (receive parse from_string m_topic s.engine message error free).engine
        life :=
          if (receive parse from_string m_topic s.engine message error free).thrown then .aborted
          else .serving }
  := by
  rw [next] at h
  split_ifs at h with hlife
  use hlife, (Option.some.inj h).symm

theorem next_terminate {s t : Server} (h : next parse from_string m_topic s .terminate = some t) :
  s.life = .serving ∧ t = { s with life := .closing s.engine.m_mapOidSwitchHandler.keys }
  := by
  rw [next] at h
  split_ifs at h with hlife
  use hlife, (Option.some.inj h).symm

theorem next_closed {s t : Server} (h : next parse from_string m_topic s .closed = some t) :
  ∃ oid rest, s.life = .closing (oid :: rest) ∧ (s.threads oid).closer = .returned
    ∧ t = { s with life := .closing rest }
  := by
  rw [next] at h
  split at h
  next oid rest hlife =>
    split_ifs at h with hret
    use oid, rest, hlife, hret, (Option.some.inj h).symm
  all_goals cases h

theorem next_clear {s t : Server} (h : next parse from_string m_topic s .clear = some t) :
  s.life = .closing []
    ∧ t = { s with engine.m_mapOidSwitchHandler := .empty, life := .destroyed }
  := by
  rw [next] at h
  split_ifs at h with hlife
  use hlife, (Option.some.inj h).symm

theorem m_config_next {s t : Server} :
    ∀ {a : Action}, next parse from_string m_topic s a = some t →
      t.engine.m_config = s.engine.m_config
  | .message message error free, hnext => by
      obtain ⟨-, rfl⟩ := next_message hnext
      apply m_config_receive
  | .handler oid a, hnext => by
      obtain ⟨handler, x, -, -, -, rfl⟩ := next_handler hnext
      rfl
  | .terminate, hnext => by
      obtain ⟨-, rfl⟩ := next_terminate hnext
      rfl
  | .closed, hnext => by
      obtain ⟨_, _, -, -, rfl⟩ := next_closed hnext
      rfl
  | .clear, hnext => by
      obtain ⟨-, rfl⟩ := next_clear hnext
      rfl

/-- A step of the server is, for a configured switch, a step of that switch or nothing. -/
theorem run_seen {m_config : SvrCfg} {oid : String} {info : SwitchInfo}
    (hinfo : m_config.m_mapOidSwitchInfo.find oid = some info) {s t : Server}
    (hconfig : s.engine.m_config = m_config) :
    ∀ {a : Action}, SwitchesAbove parse from_string m_topic s a →
      next parse from_string m_topic s a = some t →
      run (SwitchRun.next info) (s.view oid) (seen parse m_topic m_config oid a)
        = some (t.view oid)
  | .message message error free, hok, hnext => by
      obtain ⟨-, rfl⟩ := next_message hnext
      rw [seen, ← hconfig]
      cases haccept : requestIn parse m_topic s.engine.m_config message with
      | none =>
          rw [receive_of_none haccept]
          rfl
      | some x =>
          obtain ⟨req, info'⟩ := x
          have hfind := find_receive hok haccept oid
          simp only
          by_cases hoid : req.m_strSwitchId = oid
          · rw [if_pos hoid] at hfind ⊢
            have hinfo' : info' = info := by
              obtain ⟨text, -, haccept'⟩ := Option.bind_eq_some_iff.mp haccept
              have hfind' := (acceptedRequest_eq_some.mp haccept').2.1
              rw [hoid, hconfig, hinfo] at hfind'
              apply (Option.some.inj hfind').symm
            rw [run_singleton, SwitchRun.next, view, view, hfind, hinfo']
          · rw [if_neg hoid] at hfind ⊢
            rw [run_nil, view, view, hfind]
  | .handler oid' a, _, hnext => by
      obtain ⟨handler, x, hfind, -, hstep, rfl⟩ := next_handler hnext
      rw [seen]
      by_cases hoid : oid' = oid
      · subst hoid
        rw [if_pos rfl, run_singleton, SwitchRun.next, view, hfind, Option.bind_some, hstep, view]
        simp [setHandler, hfind]
      · rw [if_neg hoid, run_nil, view, view, setHandler,
          OrdMap.find_modify_of_ne _ _ (Ne.symm hoid)]
        simp only [Function.update_of_ne (Ne.symm hoid)]
  | .terminate, _, hnext => by
      obtain ⟨-, rfl⟩ := next_terminate hnext
      rfl
  | .closed, _, hnext => by
      obtain ⟨_, _, -, -, rfl⟩ := next_closed hnext
      rfl
  | .clear, _, hnext => by
      obtain ⟨-, rfl⟩ := next_clear hnext
      rfl

/-! ### Runs -/

section Runs

variable (parse from_string m_topic)

/-- Every run of the server in which new switches come above the others is, for each
configured switch, a run of that switch alone. -/
theorem run_view_of_run {m_config : SvrCfg} {oid : String} {info : SwitchInfo}
    (hinfo : m_config.m_mapOidSwitchInfo.find oid = some info) {as : List Action} {t : Server}
    (hok : Meets (next parse from_string m_topic) (SwitchesAbove parse from_string m_topic)
      (initial m_config) as)
    (hrun : run (next parse from_string m_topic) (initial m_config) as = some t) :
  run (SwitchRun.next info) {} (as.flatMap (seen parse m_topic m_config oid))
    = some (t.view oid)
  := by
  have hstep : ∀ (s : Server) a t, s.engine.m_config = m_config →
      SwitchesAbove parse from_string m_topic s a →
      next parse from_string m_topic s a = some t → t.engine.m_config = m_config := by
    intro s a t hs _ hnext
    rw [m_config_next hnext, hs]
  have hview : ∀ (s : Server) a t, s.engine.m_config = m_config →
      SwitchesAbove parse from_string m_topic s a →
      next parse from_string m_topic s a = some t →
      run (SwitchRun.next info) (s.view oid) (seen parse m_topic m_config oid a)
        = some (t.view oid) :=
    fun s a t hs ha hnext => run_seen hinfo hs ha hnext
  rw [← trace_of_run _ hrun]
  apply run_trace hview hstep rfl hok hrun

/-- Two runs of the server, with any configurations that agree on a switch, in which the
switch is sent the same requests and its threads do the same, leave its handler, its threads
and all that has been sent to it in the same state, whatever the other switches are sent and
do. -/
theorem view_eq_of_seen_eq (m_config m_config' : SvrCfg) (oid : String) (info : SwitchInfo)
    (hinfo : m_config.m_mapOidSwitchInfo.find oid = some info)
    (hinfo' : m_config'.m_mapOidSwitchInfo.find oid = some info) (as bs : List Action)
    {t u : Server}
    (has : Meets (next parse from_string m_topic) (SwitchesAbove parse from_string m_topic)
      (initial m_config) as)
    (hbs : Meets (next parse from_string m_topic) (SwitchesAbove parse from_string m_topic)
      (initial m_config') bs)
    (ht : run (next parse from_string m_topic) (initial m_config) as = some t)
    (hu : run (next parse from_string m_topic) (initial m_config') bs = some u)
    (hseen : as.flatMap (seen parse m_topic m_config oid)
      = bs.flatMap (seen parse m_topic m_config' oid)) :
  t.view oid = u.view oid
  := by
  have ht' := run_view_of_run parse from_string m_topic hinfo has ht
  have hu' := run_view_of_run parse from_string m_topic hinfo' hbs hu
  rw [hseen] at ht'
  apply Option.some.inj (ht'.symm.trans hu')

end Runs

/-- A message for channel 1 of the switch `a`. -/
def toA : mosquitto_message := ⟨"seeta_switch_open", some EngineRun.messageA.toList⟩

/-- The door of the switch `a` is opened. -/
def opened : List Action :=
  .message toA false true :: List.replicate 4 (.handler "a" (.work 1 0))

/-- A message for channel 1 of the switch `b`. -/
def toB : mosquitto_message := ⟨"seeta_switch_open", some EngineRun.messageB.toList⟩

/-- The door of the switch `a` is opened before and after the switch `b` is requested. -/
theorem view_eq_of_seen_eq_two :
  ∃ t u, run (next EngineRun.parseAB EngineRun.addressAB "seeta_switch_open")
      (initial EngineRun.twoSwitches)
      (opened ++ [.message toB false true, .handler "b" (.work 1 0)]) = some t
    ∧ run (next EngineRun.parseAB EngineRun.addressAB "seeta_switch_open")
      (initial EngineRun.twoSwitches) opened = some u
    ∧ t.view "a" = u.view "a"
  := by
  have ht : (run (next EngineRun.parseAB EngineRun.addressAB "seeta_switch_open")
      (initial EngineRun.twoSwitches)
      (opened ++ [.message toB false true, .handler "b" (.work 1 0)])).isSome := by
    decide +kernel
  have hu : (run (next EngineRun.parseAB EngineRun.addressAB "seeta_switch_open")
      (initial EngineRun.twoSwitches) opened).isSome := by
    decide +kernel
  obtain ⟨t, ht⟩ := Option.isSome_iff_exists.mp ht
  obtain ⟨u, hu⟩ := Option.isSome_iff_exists.mp hu
  use t, u, ht, hu
  exact view_eq_of_seen_eq EngineRun.parseAB EngineRun.addressAB "seeta_switch_open"
    EngineRun.twoSwitches EngineRun.twoSwitches "a" EngineRun.switchA (by decide +kernel)
    (by decide +kernel) _ _ (by decide +kernel) (by decide +kernel) ht hu (by decide +kernel)

end Server

end DoorSwitchSvr
