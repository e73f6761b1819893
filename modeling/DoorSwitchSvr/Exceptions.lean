import DoorSwitchSvr.Engine
import DoorSwitchSvr.SwitchSetting

/-!
# Exceptions in the callback of messages

Three steps of `onRecvMqttMessage` can throw: the parsing of the message, the constructor of
a handler, which takes the ip of its switch for the literal of an address, and the `connect`
of the new handler, which starts a timer when its attempt fails.  Only the first one is in the
`try` block.

An exception leaves the callback exactly when an accepted message is the first one for a
switch, and the ip of the switch is not the literal of an address, or the attempt to connect
fails while the pool has no free thread (`returnsNormally_iff`).  The ip is any text that the
database has in the field (`host_name_thrown`).  The parsing and the constructor leave the map
of handlers as it was before the message (`engine_of_throws`), but the handler whose timer
cannot be started stays in it (`find_of_startThrows`).
-/

namespace DoorSwitchSvr

/-! ### The configuration -/

/-- Every record of the map is under its own id. -/
def OidOfFind (m : OrdMap String SwitchInfo) : Prop :=
  ∀ oid info, m.find oid = some info → info.oid = oid

theorem OidOfFind.insert {m : OrdMap String SwitchInfo} (h : OidOfFind m) (info : SwitchInfo) :
  OidOfFind (m.insert info.oid info)
  := by
  intro oid info' hfind
  rcases eq_or_ne oid info.oid with rfl | hne
  · cases hold : m.find info.oid with
    | none =>
        rw [OrdMap.find_insert_self info hold] at hfind
        rw [Option.some.inj hfind]
    | some old =>
        rw [OrdMap.find_insert_of_some info hold] at hfind
        apply h
        rw [hold, hfind]
  · rw [OrdMap.find_insert_of_ne m info hne] at hfind
    apply h oid info' hfind

theorem OidOfFind.loadDocuments {m : OrdMap String SwitchInfo} (h : OidOfFind m)
    (cast : SwitchTypeCast) (docs : List Document) :
  OidOfFind (loadDocuments cast m docs).1
  := by
  induction docs generalizing m with
  | nil => apply h
  | cons doc docs ih =>
      rw [DoorSwitchSvr.loadDocuments]
      split
      · apply h
      · apply ih h
      · apply ih (h.insert _)

theorem OidOfFind.loadSwitchSetting {m : OrdMap String SwitchInfo} (h : OidOfFind m)
    (cast : SwitchTypeCast) (cursor : Cursor) :
  OidOfFind (loadSwitchSetting cast m cursor).1
  := by
  induction cursor generalizing m with
  | failed => apply h
  | last docs => apply h.loadDocuments cast docs
  | more docs rest ih =>
      have hdocs := h.loadDocuments cast docs
      rw [DoorSwitchSvr.loadSwitchSetting]
      split
      next heq =>
        rw [heq] at hdocs
        apply hdocs
      next heq =>
        rw [heq] at hdocs
        apply ih hdocs

/-- The configuration with the settings that a cursor gives. -/
def SvrCfg.load (cast : SwitchTypeCast) (cursor : Cursor) : SvrCfg where
  m_mapOidSwitchInfo := (loadSwitchSetting cast .empty cursor).1
  oid_of_find := by
    have hempty : OidOfFind .empty := by
      intro oid info hfind
      cases hfind
    exact hempty.loadSwitchSetting cast cursor

namespace DoorSwitchEngine

/-! ### Exceptions -/

variable (parse : String → Option OpenDoorRequest) (from_string : String → Bool)
  (engine : DoorSwitchEngine) (message : String)

/-- The message is the first one for a switch, and the constructor of its handler throws. -/
def CreationThrows : Prop :=
  ∃ req info, acceptedRequest parse engine.m_config message = some (req, info)
    ∧ engine.m_mapOidSwitchHandler.find req.m_strSwitchId = none
    ∧ from_string info.ip = false

/-- The message is the first one for a switch, and the handler that is connected for it, the
last one of the map, fails to connect while the pool has no free thread for its timer. -/
def StartThrows (error free : Bool) : Prop :=
  ∃ req info oid handler, acceptedRequest parse engine.m_config message = some (req, info)
    ∧ engine.m_mapOidSwitchHandler.find req.m_strSwitchId = none
    ∧ from_string info.ip = true
    ∧ (engine.m_mapOidSwitchHandler.insert info.oid { m_switchInfo := info }).crbegin
      = some (oid, handler)
    ∧ (handler.conn.reconnect error).2 = false ∧ free = false

/-- The callback returns normally, and when something throws in it the map of handlers is as
it was. -/
structure ReturnsNormally (error free : Bool) : Prop where
  returns : (engine.onRecvMqttMessage parse from_string message error free).thrown = false
  restored : parse message = none ∨ engine.CreationThrows parse from_string message
      ∨ engine.StartThrows parse from_string message error free →
    (engine.onRecvMqttMessage parse from_string message error free).engine.m_mapOidSwitchHandler
      = engine.m_mapOidSwitchHandler

variable {parse from_string engine message}

theorem connect_isNone_iff (h : DoorSwitchHandler) (error free : Bool) :
  (h.connect error free).2.isNone = true ↔ (h.conn.reconnect error).2 = false ∧ free = false
  := by
  rw [DoorSwitchHandler.connect, Connection.connect_result]
  cases (h.conn.reconnect error).2 <;> cases free <;> simp

/-- An exception leaves the callback exactly when the constructor of a handler throws, or the
start of its timer. -/
theorem thrown_iff (error free : Bool) :
  (engine.onRecvMqttMessage parse from_string message error free).thrown = true
    ↔ engine.CreationThrows parse from_string message
      ∨ engine.StartThrows parse from_string message error free
  := by
  constructor
  · intro hthrown
    have hreceives := receives parse from_string engine message error free
    generalize engine.onRecvMqttMessage parse from_string message error free = r
      at hthrown hreceives
    cases hreceives with
    | thrown req info haccept hfind hip =>
        left
        use req, info, haccept, hfind, hip
    | created req info oid handler haccept hfind hip hlast =>
        right
        use req, info, oid, handler, haccept, hfind, hip, hlast
        apply (connect_isNone_iff handler error free).mp hthrown
    | rejected | known => cases hthrown
  · rintro (⟨req, info, haccept, hfind, hip⟩
      | ⟨req, info, oid, handler, haccept, hfind, hip, hlast, hthrows⟩)
    · rw [onRecvMqttMessage_thrown haccept hfind hip]
    · rw [onRecvMqttMessage_new haccept hfind hip hlast]
      apply (connect_isNone_iff handler error free).mpr hthrows

/-- When the parsing or the constructor throws, the engine is as it was. -/
theorem engine_of_throws
    (h : parse message = none ∨ engine.CreationThrows parse from_string message)
    (error free : Bool) :
  (engine.onRecvMqttMessage parse from_string message error free).engine = engine
  := by
  rcases h with hparse | ⟨req, info, haccept, hfind, hip⟩
  · have hnone : acceptedRequest parse engine.m_config message = none := by
      rw [acceptedRequest, hparse, Option.bind_none]
    rw [onRecvMqttMessage_rejected hnone]
  · rw [onRecvMqttMessage_thrown haccept hfind hip]

/-- When the start of the timer throws, the switch has a handler that it did not have before
the message. -/
theorem find_of_startThrows {error free : Bool}
    (h : engine.StartThrows parse from_string message error free) :
  ∃ oid, engine.m_mapOidSwitchHandler.find oid = none
    ∧ (engine.onRecvMqttMessage parse from_string message error
      free).engine.m_mapOidSwitchHandler.find oid ≠ none
  := by
  obtain ⟨req, info, oid, handler, haccept, hfind, hip, hlast, -⟩ := h
  have hoid := acceptedRequest_oid haccept
  use req.m_strSwitchId, hfind
  rw [onRecvMqttMessage_new haccept hfind hip hlast]
  rw [← hoid] at hfind ⊢
  have hsome := OrdMap.find_insert_self ({ m_switchInfo := info } : DoorSwitchHandler) hfind
  simp only [OrdMap.find_modify]
  split_ifs with heq
  · rw [← heq, hsome]
    apply Option.some_ne_none
  · rw [hsome]
    apply Option.some_ne_none

/-- The callback returns normally, with nothing changed by what throws in it, if and only if
the message is not the first one accepted for a switch whose ip is not the literal of an
address, or whose request makes an attempt to connect that fails while the pool has no free
thread. -/
theorem returnsNormally_iff (parse : String → Option OpenDoorRequest)
    (from_string : String → Bool) (engine : DoorSwitchEngine) (message : String)
    (error free : Bool) :
  engine.ReturnsNormally parse from_string message error free
    ↔ ¬ engine.CreationThrows parse from_string message
      ∧ ¬ engine.StartThrows parse from_string message error free
  := by
  rw [← not_or]
  constructor
  · intro h hthrows
    have hthrown := (thrown_iff error free).mpr hthrows
    rw [h.returns] at hthrown
    cases hthrown
  · intro hthrows
    constructor
    · rw [← Bool.not_eq_true, thrown_iff]
      apply hthrows
    · rintro (hparse | hthrows')
      · rw [engine_of_throws (Or.inl hparse)]
      · apply absurd hthrows' hthrows

/-! ### A switch with the name of a host -/

/-- A batch with one switch, whose ip is the name of a host. -/
def namedHost : Cursor := .last [switchDocument (idOf 17) "switch.local" 8]

/-- A message for the switch of `namedHost`. -/
def namedMessage : String :=
  "\x7b\"switch_id\":\"111111111111111111111111\",\"channel\":1,\"close\":1000\x7d"

/-- The request in the message. -/
def parseNamed (message : String) : Option OpenDoorRequest :=
  if message = namedMessage then some ⟨"111111111111111111111111", 1, 1000⟩ else none

/-- The settings of `namedHost` are loaded, and the first message for its switch throws. -/
theorem host_name_thrown :
  (loadSwitchSetting .keeping .empty namedHost).2 = true
    ∧ ¬ ReturnsNormally parseNamed (fun ip => ip = "127.0.0.1")
      { m_config := SvrCfg.load .keeping namedHost } namedMessage false true
  := by
  use rfl
  intro h
  have hthrown := h.returns
  revert hthrown
  decide

end DoorSwitchEngine

end DoorSwitchSvr
