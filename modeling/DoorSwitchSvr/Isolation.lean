import DoorSwitchSvr.Engine
import DoorSwitchSvr.Lib.Transition

/-!
# Isolation of the switches

A run of messages to the engine, with the threads of the handlers changing their handlers
in between.

What is wanted (`Separate`): the calls made on the handler of a switch are determined by
the accepted requests that name the switch and the outcomes of its own connection attempt.
The first of them creates and connects the handler, and each is passed on, except for a
first one whose connection attempt failed (`callsFor`).

A run keeps it exactly when every switch that is requested for the first time has an id
above those requested before, and the literal of an address as its ip (`separate_iff`).
For the engine, too, inserts the new handler into an ordered map and then looks it up as
the last entry; and a constructor that throws leaves the switch without a handler.
-/

namespace DoorSwitchSvr

open Transition DoorSwitchEngine

/-- An accepted request with its switch, the outcome of the connection attempt that its
message makes if it makes one, and whether there is a free thread for the timer that it
starts if the attempt fails. -/
structure Accepted where
  req : OpenDoorRequest
  info : SwitchInfo
  error : Bool
  free : Bool
  deriving DecidableEq, Repr

namespace Accepted

/-- The id of the switch that the request names. -/
def oid (a : Accepted) : String := a.req.m_strSwitchId

/-- The calls for the first request for a switch. -/
def firstCalls (a : Accepted) : List HandlerCall :=
  [.create a.info, .connect a.error a.free] ++ if a.error then [] else [a.req.call]

/-- They are those that serve the request with the new handler. -/
theorem firstCalls_eq (a : Accepted) :
  a.firstCalls
    = .create a.info :: servingCalls a.req a.error a.free { m_switchInfo := a.info }
  := by
  rw [firstCalls, servingCalls, DoorSwitchHandler.connect, Connection.connect_result,
    Connection.reconnect_of_ne Socket.noConfusion]
  cases a.error <;> cases a.free <;> rfl

end Accepted

/-- The calls on the handler of a switch, for the requests that name it. -/
def callsFor : List Accepted → List HandlerCall
  | [] => []
  | a :: as => a.firstCalls ++ as.map (fun a => a.req.call)

theorem callsFor_concat (as : List Accepted) (a : Accepted) :
  callsFor (as ++ [a]) = callsFor as ++ if as = [] then a.firstCalls else [a.req.call]
  := by
  cases as with
  | nil => simp [callsFor]
  | cons a' as => simp [callsFor]

/-- An engine, the calls that it has made, and the requests that it has accepted. -/
structure EngineRun where
  engine : DoorSwitchEngine
  log : List (String × HandlerCall)
  accepted : List Accepted

namespace EngineRun

/-- The next step is a message, with the outcome of the connection attempt that it may make
and whether there is a free thread for the timer that it may start; or the threads of a
handler have taken it to `h`. -/
inductive Action where
  | message (message : String) (error free : Bool)
  | threads (oid : String) (h : DoorSwitchHandler)

section Run

variable (parse : String → Option OpenDoorRequest) (from_string : String → Bool)

/-- The request in a message, if it is accepted. -/
def acceptedOf (s : EngineRun) (message : String) (error free : Bool) : List Accepted :=
  (acceptedRequest parse s.engine.m_config message).toList.map (fun x =>
    ⟨x.1, x.2, error, free⟩)

/-- The state after an action.  An exception leaves the engine as it is. -/
def next (s : EngineRun) : Action → Option EngineRun
  | .message message error free =>
      let r := s.engine.onRecvMqttMessage parse from_string message error free
      some ⟨r.engine, s.log ++ r.calls, s.accepted ++ s.acceptedOf parse message error free⟩
  | .threads oid h => some { s with engine := s.engine.setHandler oid h }

/-- An engine without handlers. -/
def initial (m_config : SvrCfg) : EngineRun := ⟨{ m_config := m_config }, [], []⟩

/-- The handler of a switch. -/
def handler (s : EngineRun) (oid : String) : Option DoorSwitchHandler :=
  s.engine.m_mapOidSwitchHandler.find oid

/-- The accepted requests that name a switch. -/
def requestsFor (s : EngineRun) (oid : String) : List Accepted :=
  s.accepted.filter (fun a => a.oid = oid)

/-- The calls on the handler of each switch are those for the requests that name it. -/
def Separate (s : EngineRun) : Prop :=
  ∀ oid, callsOn oid s.log = callsFor (s.requestsFor oid)

/-- The action is not the first request for a switch below one that has a handler, or for
a switch whose ip is not the literal of an address. -/
def NewSwitchAbove (s : EngineRun) : Action → Prop
  | .message message _ _ =>
      ∀ req info, acceptedRequest parse s.engine.m_config message = some (req, info) →
        s.handler req.m_strSwitchId = none →
          from_string info.ip = true
            ∧ ∀ k ∈ s.engine.m_mapOidSwitchHandler.keys, k < req.m_strSwitchId
  | .threads _ _ => True

end Run

variable {parse : String → Option OpenDoorRequest} {from_string : String → Bool}

/-! ### Steps -/

/-- The invariant of the runs: the calls are separate, and exactly the switches that have
been requested have a handler. -/
structure Inv (s : EngineRun) : Prop where
  separate : s.Separate
  handler_eq_none : ∀ oid, s.handler oid = none ↔ s.requestsFor oid = []

/-- The calls a message should make for the request it is accepted for. -/
def expectedCalls (s : EngineRun) (a : Accepted) : List HandlerCall :=
  if s.handler a.oid = none then a.firstCalls else [a.req.call]

theorem requestsFor_concat {s t : EngineRun} {a : Accepted}
    (h : t.accepted = s.accepted ++ [a]) (oid : String) :
  t.requestsFor oid = s.requestsFor oid ++ if a.oid = oid then [a] else []
  := by
  rw [requestsFor, h, List.filter_append, requestsFor]
  congr 1
  split_ifs with hoid <;> simp [hoid]

/-- After a step that accepts the request `a` and makes the calls `calls`, the calls on the
switch of `a` are separate exactly when those among them are the expected ones. -/
theorem Inv.callsOn_iff {s t : EngineRun} (h : Inv s) {a : Accepted}
    {calls : List (String × HandlerCall)} (hlog : t.log = s.log ++ calls)
    (hacc : t.accepted = s.accepted ++ [a]) :
  callsOn a.oid t.log = callsFor (t.requestsFor a.oid)
    ↔ callsOn a.oid calls = s.expectedCalls a
  := by
  rw [requestsFor_concat hacc, if_pos rfl, callsFor_concat, hlog, callsOn_append, h.separate a.oid,
    List.append_cancel_left_eq, expectedCalls]
  simp only [h.handler_eq_none]

theorem run_expectedCalls (s : EngineRun) (a : Accepted) :
  (s.expectedCalls a).foldl (fun h call => call.run h) (s.handler a.oid) ≠ none
  := by
  rw [expectedCalls]
  split_ifs with hnone
  · rw [hnone, Accepted.firstCalls_eq, List.foldl_cons]
    change (servingCalls a.req a.error a.free _).foldl _ (some _) ≠ none
    rw [run_servingCalls]
    apply Option.some_ne_none
  · obtain ⟨h, hh⟩ := Option.ne_none_iff_exists'.mp hnone
    rw [hh]
    apply Option.some_ne_none

/-- A step that makes the expected calls for the request it accepts, and no others, keeps
the invariant. -/
theorem Inv.of_step {s t : EngineRun} (h : Inv s) {a : Accepted}
    {calls : List (String × HandlerCall)} (hlog : t.log = s.log ++ calls)
    (hacc : t.accepted = s.accepted ++ [a])
    (hrun : ∀ oid, t.handler oid
      = (callsOn oid calls).foldl (fun h call => call.run h) (s.handler oid))
    (hself : callsOn a.oid calls = s.expectedCalls a)
    (hothers : ∀ oid, oid ≠ a.oid → callsOn oid calls = []) :
  Inv t
  := by
  have hsame : ∀ oid, oid ≠ a.oid → t.requestsFor oid = s.requestsFor oid := by
    intro oid hne
    rw [requestsFor_concat hacc, if_neg hne.symm, List.append_nil]
  constructor
  · intro oid
    rcases eq_or_ne oid a.oid with rfl | hne
    · apply (h.callsOn_iff hlog hacc).mpr hself
    · rw [hlog, callsOn_append, hothers oid hne, hsame oid hne, List.append_nil]
      apply h.separate
  · intro oid
    rcases eq_or_ne oid a.oid with rfl | hne
    · have hsome := s.run_expectedCalls a
      rw [← hself, ← hrun] at hsome
      rw [requestsFor_concat hacc, if_pos rfl]
      simp [hsome]
    · rw [hrun, hothers oid hne, hsame oid hne]
      apply h.handler_eq_none

theorem acceptedOf_eq {s : EngineRun} {message : String} {req : OpenDoorRequest}
    {info : SwitchInfo}
    (h : acceptedRequest parse s.engine.m_config message = some (req, info))
    (error free : Bool) :
  s.acceptedOf parse message error free = [⟨req, info, error, free⟩]
  := by
  rw [acceptedOf, h]
  rfl

/-- The calls for an accepted message are the expected ones, and on no other switch, unless
it first requests a switch below one that has a handler or with an ip that is not the
literal of an address. -/
theorem callsOn_received {s : EngineRun} {message : String} {error free : Bool}
    (hok : NewSwitchAbove parse from_string s (.message message error free))
    {req : OpenDoorRequest} {info : SwitchInfo}
    (haccept : acceptedRequest parse s.engine.m_config message = some (req, info)) :
  ∃ calls, (s.engine.onRecvMqttMessage parse from_string message error free).calls
      = calls.map (Prod.mk req.m_strSwitchId)
    ∧ calls = s.expectedCalls ⟨req, info, error, free⟩
  := by
  have hoid := acceptedRequest_oid haccept
  cases hfind : s.engine.m_mapOidSwitchHandler.find req.m_strSwitchId with
  | some handler =>
      use [req.call]
      constructor
      · rw [onRecvMqttMessage_known haccept hfind]
        rfl
      · rw [expectedCalls, if_neg]
        rw [EngineRun.handler, Accepted.oid, hfind]
        apply Option.some_ne_none
  | none =>
      obtain ⟨hip, habove⟩ := hok req info haccept hfind
      rw [← hoid] at habove
      use .create info :: servingCalls req error free { m_switchInfo := info }
      constructor
      · have hlast := OrdMap.crbegin_insert_of_above
          ({ m_switchInfo := info } : DoorSwitchHandler) habove
        rw [onRecvMqttMessage_new haccept hfind hip hlast, hoid]
        rfl
      · have hfind' : s.handler (Accepted.mk req info error free).oid = none := hfind
        rw [expectedCalls, if_pos hfind', Accepted.firstCalls_eq]

theorem Inv.message {s t : EngineRun} (h : Inv s) {message : String} {error free : Bool}
    (hok : NewSwitchAbove parse from_string s (.message message error free))
    (hnext : next parse from_string s (.message message error free) = some t) :
  Inv t
  := by
  obtain rfl := Option.some.inj hnext
  cases haccept : acceptedRequest parse s.engine.m_config message with
  | none =>
      rw [onRecvMqttMessage_rejected haccept, acceptedOf, haccept]
      simpa using h
  | some x =>
      obtain ⟨req, info⟩ := x
      obtain ⟨calls, hcalls, hexpected⟩ := callsOn_received hok haccept
      rw [acceptedOf_eq haccept]
      apply h.of_step rfl rfl
      · intro oid
        apply find_onRecvMqttMessage
      · rw [hcalls, ← hexpected]
        apply callsOn_map_self
      · intro oid hne
        rw [hcalls]
        apply callsOn_map_of_ne hne

/-- A message that first requests a switch below one that has a handler, or with an ip that
is not the literal of an address, does not keep the calls separate. -/
theorem not_separate_message {s t : EngineRun} (h : Inv s) {message : String} {error free : Bool}
    (hok : ¬ NewSwitchAbove parse from_string s (.message message error free))
    (hnext : next parse from_string s (.message message error free) = some t) :
  ¬ Separate t
  := by
  obtain rfl := Option.some.inj hnext
  simp only [NewSwitchAbove, not_forall] at hok
  obtain ⟨req, info, haccept, hfind, hnew⟩ := hok
  rw [acceptedOf_eq haccept]
  intro hseparate
  have hfind' : s.handler (Accepted.mk req info error free).oid = none := hfind
  have hcalls := (h.callsOn_iff rfl rfl).mp (hseparate (Accepted.mk req info error free).oid)
  rw [expectedCalls, if_pos hfind'] at hcalls
  cases hip : from_string info.ip with
  | false =>
      -- the constructor throws, and no call is made
      rw [onRecvMqttMessage_thrown haccept hfind hip] at hcalls
      cases hcalls
  | true =>
      -- the handler is created, and another one is connected
      rw [hip, eq_self, true_and] at hnew
      have hoid := acceptedRequest_oid haccept
      rw [EngineRun.handler] at hfind
      rw [← hoid] at hnew
      obtain ⟨e, hlast, -, hlt⟩ :=
        OrdMap.crbegin_insert_of_not_above { m_switchInfo := info } (hoid ▸ hfind) hnew
      rw [onRecvMqttMessage_new haccept hfind hip hlast, ← List.singleton_append, callsOn_append,
        callsOn_map_of_ne] at hcalls
      · simp [callsOn, Accepted.oid, hoid, Accepted.firstCalls] at hcalls
      · rw [hoid] at hlt
        apply ne_of_lt hlt

/-- A message is kept separate exactly when it is not such a first request. -/
theorem separate_step_iff {s : EngineRun} (h : Inv s) :
    ∀ {a : Action} {t : EngineRun}, next parse from_string s a = some t →
      (Separate t ↔ NewSwitchAbove parse from_string s a)
  | .message message error free, t, hnext => by
      constructor
      · intro ht
        by_contra hok
        apply not_separate_message h hok hnext ht
      · intro hok
        apply (h.message hok hnext).separate
  | .threads oid handler, t, hnext => by
      obtain rfl := Option.some.inj hnext
      constructor
      · intro _
        trivial
      · intro _
        apply h.separate

/-! ### Runs -/

theorem Inv.step {s : EngineRun} (h : Inv s) :
    ∀ {a : Action} {t : EngineRun}, NewSwitchAbove parse from_string s a →
      next parse from_string s a = some t → Inv t
  | .message _ _ _, _, hok, hnext => h.message hok hnext
  | .threads oid handler, t, _, hnext => by
      obtain rfl := Option.some.inj hnext
      constructor
      · apply h.separate
      · intro oid'
        apply Iff.trans _ (h.handler_eq_none oid')
        rw [EngineRun.handler, setHandler, OrdMap.find_modify]
        split_ifs with heq
        · rw [heq, EngineRun.handler, Option.map_eq_none_iff]
        · rfl

theorem Inv.initial (m_config : SvrCfg) :
  Inv (initial m_config)
  := by
  constructor
  · intro oid
    rfl
  · intro oid
    exact ⟨fun _ => rfl, fun _ => rfl⟩

/-- In two runs that have accepted the same requests for a switch, with the same outcomes of
its connection attempt, the calls on its handler are the same, whatever else they have been
sent. -/
theorem callsOn_eq {s t : EngineRun} (hs : s.Separate) (ht : t.Separate) {oid : String}
    (h : s.requestsFor oid = t.requestsFor oid) :
  callsOn oid s.log = callsOn oid t.log
  := by
  rw [hs, ht, h]

variable (parse from_string)

/-- After every step of a run the calls on each handler are those for the accepted requests
that name its switch, if and only if no switch is requested for the first time when there
is a handler of a greater id, or with an ip that is not the literal of an address. -/
theorem separate_iff (m_config : SvrCfg) (as : List Action) :
  Along (next parse from_string) (fun _ _ t => Separate t) (initial m_config) as
    ↔ Meets (next parse from_string) (NewSwitchAbove parse from_string) (initial m_config) as
  := by
  apply along_iff_meets _ _ (Inv.initial m_config)
  · intro s a t hs hnext
    apply separate_step_iff hs hnext
  · intro s a t hs hok hnext
    apply hs.step hok hnext

/-! ### Two switches -/

def switchA : SwitchInfo := ⟨"a", "127.0.0.1", 8, 10001, .DIRECT_CONTROL_SWITCH⟩

def switchB : SwitchInfo := ⟨"b", "127.0.0.2", 8, 10001, .DIRECT_CONTROL_SWITCH⟩

/-- The configuration of the two switches. -/
def twoSwitches : SvrCfg where
  m_mapOidSwitchInfo := (OrdMap.empty.insert "a" switchA).insert "b" switchB
  oid_of_find oid info h := by
    rcases eq_or_ne oid "b" with rfl | hb
    · obtain rfl := Option.some.inj h
      rfl
    · rw [OrdMap.find_insert_of_ne _ _ hb] at h
      rcases eq_or_ne oid "a" with rfl | ha
      · obtain rfl := Option.some.inj h
        rfl
      · rw [OrdMap.find_insert_of_ne _ _ ha] at h
        cases h

def messageA : String := "\x7b\"switch_id\":\"a\",\"channel\":1,\"close\":1000\x7d"

def messageB : String := "\x7b\"switch_id\":\"b\",\"channel\":1,\"close\":1000\x7d"

/-- The requests in the two messages. -/
def parseAB (message : String) : Option OpenDoorRequest :=
  if message = messageA then some ⟨"a", 1, 1000⟩
  else if message = messageB then some ⟨"b", 1, 1000⟩
  else none

/-- Whether the text is one of the addresses of the two switches. -/
def addressAB (ip : String) : Bool := ip = "127.0.0.1" ∨ ip = "127.0.0.2"

/-- Switch `b` is requested, and then switch `a`.  The attempt to connect for `a` is made on
the socket of `b`, which is connected, and fails. -/
def descending : List Action := [.message messageB false true, .message messageA true true]

/-- After `descending` the calls are not separate: the handler of `a` has only been created,
and that of `b` has been connected once more and has lost its connection. -/
theorem not_separate_descending :
  ¬ Along (next parseAB addressAB) (fun _ _ t => Separate t) (initial twoSwitches) descending
    ∧ ∃ t, run (next parseAB addressAB) (initial twoSwitches) descending = some t
      ∧ callsOn "a" t.log = [.create switchA]
      ∧ callsOn "b" t.log
        = [.create switchB, .connect false true, .openDoor 1 1000, .connect true true]
      ∧ (t.handler "b").map (fun h => h.conn.m_isConnected) = some false
  := by
  constructor
  · intro h
    obtain ⟨-, h⟩ := h _ rfl
    obtain ⟨ht, -⟩ := h _ rfl
    have hcalls := ht "a"
    revert hcalls
    decide
  · exact ⟨_, rfl, by decide, by decide, by decide⟩

/-- Whatever `error` says of the second attempt, it fails. -/
example (error : Bool) :
  (run (next parseAB addressAB) (initial twoSwitches)
    [.message messageB false true, .message messageA error true]).map
      (fun t => (t.handler "b").map (fun h => h.conn.m_isConnected)) = some (some false)
  := by
  cases error <;> decide

end EngineRun

end DoorSwitchSvr
