import DoorSwitchSvr.Exceptions
import DoorSwitchSvr.Origin

/-!
# Starting the server

`DoorSwitchSvr::main` reads the properties of the application, loads the settings of the
switches from the database that they name, and constructs the engine and the proxy only when
both have succeeded.  A property that cannot be read ends it with `EXIT_CONFIG`; when the
settings cannot be loaded it returns the code of the properties, which is `EXIT_OK`
(`main_eq`).

So each command that is sent to a switch by a server that `main` has started comes from a
message on the configured topic that names the switch, and from a document of the configured
collection that is the switch (`commands_have_document`).
-/

namespace DoorSwitchSvr

open Transition DoorSwitchEngine

/-! ### The properties -/

/-- The database and the collection of the switches. -/
structure MongoCfg where
  m_ip : String := "127.0.0.1"
  m_port : Int16 := 27017
  m_database : String := "system_db"
  m_tb_switch : String := "t_switch"
  deriving DecidableEq, Repr

/-- The broker and the topic of the messages. -/
structure MqttCfg where
  m_ip : String := "127.0.0.1"
  m_port : Int16 := 1883
  m_topic : String := "seeta_switch_open"
  deriving DecidableEq, Repr

/-- The members of `SvrCfg` that the properties give. -/
structure ServerCfg where
  m_mongoCfg : MongoCfg := {}
  m_mqttCfg : MqttCfg := {}
  m_syncS : Int32 := 3600
  deriving DecidableEq, Repr

/-- The properties of the application: the text of each key that has one.  `expand` puts in
the properties that a text refers to, and `parseInt` reads a number; both may throw. -/
structure Properties where
  text : String → Option String
  expand : String → Option String
  parseInt : String → Option Int32

namespace Properties

variable (config : Properties)

/-- The text of a key, or the default if it has none. -/
def getString (key : String) (default : String) : Option String :=
  match config.text key with
  | none => some default
  | some text => config.expand text

/-- The number of a key, or the default if it has none. -/
def getInt (key : String) (default : Int32) : Option Int32 :=
  match config.text key with
  | none => some default
  | some text => (config.expand text).bind config.parseInt

end Properties

/-- What `main` returns. -/
inductive ExitCode where
  | EXIT_OK
  | EXIT_CONFIG
  deriving DecidableEq, Repr

/-- The assignments of `parseConfiguration`, in their order.  One that throws assigns
nothing. -/
def assignments (config : Properties) : List (ServerCfg → Option ServerCfg) :=
  [ fun c => (config.getString "mongodb.ip" c.m_mongoCfg.m_ip).map
      (fun v => { c with m_mongoCfg.m_ip := v }),
    fun c => (config.getInt "mongodb.port" c.m_mongoCfg.m_port.toInt32).map
      (fun v => { c with m_mongoCfg.m_port := v.toInt16 }),
    fun c => (config.getString "mongodb.database" c.m_mongoCfg.m_database).map
      (fun v => { c with m_mongoCfg.m_database := v }),
    fun c => (config.getString "mongodb.doorswitch" c.m_mongoCfg.m_tb_switch).map
      (fun v => { c with m_mongoCfg.m_tb_switch := v }),
    fun c => (config.getInt "mongodb.sync.interval" c.m_syncS).map
      (fun v => { c with m_syncS := v }),
    fun c => (config.getString "mqtt.ip" c.m_mqttCfg.m_ip).map
      (fun v => { c with m_mqttCfg.m_ip := v }),
    fun c => (config.getInt "mqtt.port" c.m_mqttCfg.m_port.toInt32).map
      (fun v => { c with m_mqttCfg.m_port := v.toInt16 }),
    fun c => (config.getString "mqtt.topic" c.m_mqttCfg.m_topic).map
      (fun v => { c with m_mqttCfg.m_topic := v }) ]

/-- The assignments up to the first that throws. -/
def assignAll : List (ServerCfg → Option ServerCfg) → ServerCfg → ServerCfg × ExitCode
  | [], m_config => (m_config, .EXIT_OK)
  | assign :: rest, m_config =>
      match assign m_config with
      | none => (m_config, .EXIT_CONFIG)
      | some m_config' => assignAll rest m_config'

def parseConfiguration (config : Properties) (m_config : ServerCfg) : ServerCfg × ExitCode :=
  assignAll (assignments config) m_config

/-- What `main` does: it exits, or it runs the engine and the proxy with its configuration. -/
inductive Outcome where
  | exit (code : ExitCode)
  | serve (cfg : ServerCfg) (m_config : SvrCfg)

/-- `main` up to the construction of the engine.  `database` are the answers of the database
and the collection that are configured. -/
def main (cast : SwitchTypeCast) (config : Properties) (database : MongoCfg → Cursor) : Outcome :=
  let (cfg, res) := parseConfiguration config {}
  if res ≠ .EXIT_OK then .exit res
  else if (loadSwitchSetting cast .empty (database cfg.m_mongoCfg)).2 = false then .exit res
  else .serve cfg (SvrCfg.load cast (database cfg.m_mongoCfg))

/-! ### The configuration that is read -/

namespace Properties

variable (config : Properties)

/-- The keys whose properties are texts. -/
def stringKeys : List String :=
  ["mongodb.ip", "mongodb.database", "mongodb.doorswitch", "mqtt.ip", "mqtt.topic"]

/-- The keys whose properties are numbers. -/
def intKeys : List String := ["mongodb.port", "mongodb.sync.interval", "mqtt.port"]

/-- Every property that has a text can be read. -/
def Readable : Prop :=
  (∀ key ∈ stringKeys, (config.getString key "").isSome)
    ∧ ∀ key ∈ intKeys, (config.getInt key 0).isSome

instance : Decidable config.Readable := inferInstanceAs (Decidable (_ ∧ _))

/-- The properties, with the defaults of `Param.h` for those without a text. -/
def cfg : ServerCfg where
  m_mongoCfg :=
    { m_ip := (config.getString "mongodb.ip" "127.0.0.1").getD ""
      m_port := ((config.getInt "mongodb.port" 27017).getD 0).toInt16
      m_database := (config.getString "mongodb.database" "system_db").getD ""
      m_tb_switch := (config.getString "mongodb.doorswitch" "t_switch").getD "" }
  m_mqttCfg :=
    { m_ip := (config.getString "mqtt.ip" "127.0.0.1").getD ""
      m_port := ((config.getInt "mqtt.port" 1883).getD 0).toInt16
      m_topic := (config.getString "mqtt.topic" "seeta_switch_open").getD "" }
  m_syncS := (config.getInt "mongodb.sync.interval" 3600).getD 0

variable {config}

/-- Whether a property can be read does not depend on its default. -/
theorem isSome_getString (key default default' : String) :
  (config.getString key default).isSome = (config.getString key default').isSome
  := by
  rw [getString, getString]
  cases config.text key <;> rfl

theorem isSome_getInt (key : String) (default default' : Int32) :
  (config.getInt key default).isSome = (config.getInt key default').isSome
  := by
  rw [getInt, getInt]
  cases config.text key <;> rfl

end Properties

theorem assignAll_of_none {a : ServerCfg → Option ServerCfg} (ha : ∀ c, a c = none) :
    ∀ {as : List (ServerCfg → Option ServerCfg)} (c : ServerCfg), a ∈ as →
      (assignAll as c).2 = .EXIT_CONFIG
  | a' :: as, c, h => by
      rw [assignAll]
      cases hc' : a' c with
      | none => rfl
      | some c' =>
          rcases List.mem_cons.mp h with rfl | h
          · cases (ha c).symm.trans hc'
          · apply assignAll_of_none ha c' h

theorem exists_assignment_string {config : Properties} {key : String}
    (h : key ∈ Properties.stringKeys) (hnone : (config.getString key "").isSome = false) :
  ∃ a ∈ assignments config, ∀ c, a c = none
  := by
  have hget : ∀ default, config.getString key default = none := by
    intro default
    rw [← Option.not_isSome_iff_eq_none, Properties.isSome_getString key default "", hnone]
    exact Bool.false_ne_true
  simp only [Properties.stringKeys, List.mem_cons, List.not_mem_nil, or_false] at h
  rcases h with rfl | rfl | rfl | rfl | rfl
  all_goals simp [assignments, hget]

theorem exists_assignment_int {config : Properties} {key : String}
    (h : key ∈ Properties.intKeys) (hnone : (config.getInt key 0).isSome = false) :
  ∃ a ∈ assignments config, ∀ c, a c = none
  := by
  have hget : ∀ default, config.getInt key default = none := by
    intro default
    rw [← Option.not_isSome_iff_eq_none, Properties.isSome_getInt key default 0, hnone]
    exact Bool.false_ne_true
  simp only [Properties.intKeys, List.mem_cons, List.not_mem_nil, or_false] at h
  rcases h with rfl | rfl | rfl
  all_goals simp [assignments, hget]

/-- A property that cannot be read ends `parseConfiguration` with `EXIT_CONFIG`. -/
theorem parseConfiguration_of_not_readable {config : Properties} (h : ¬ config.Readable)
    (m_config : ServerCfg) :
  (parseConfiguration config m_config).2 = .EXIT_CONFIG
  := by
  have hnone : ∃ a ∈ assignments config, ∀ c, a c = none := by
    by_contra hnot
    apply h
    constructor
    · intro key hkey
      by_contra hsome
      apply hnot (exists_assignment_string hkey (Bool.eq_false_iff.mpr hsome))
    · intro key hkey
      by_contra hsome
      apply hnot (exists_assignment_int hkey (Bool.eq_false_iff.mpr hsome))
  obtain ⟨a, hmem, ha⟩ := hnone
  apply assignAll_of_none ha m_config hmem

/-- When every property can be read, each is assigned. -/
theorem parseConfiguration_of_readable {config : Properties} (h : config.Readable) :
  parseConfiguration config {} = (config.cfg, .EXIT_OK)
  := by
  obtain ⟨hstrings, hints⟩ := h
  have hstring : ∀ key ∈ Properties.stringKeys, ∀ default,
      ∃ v, config.getString key default = some v := by
    intro key hkey default
    rw [← Option.isSome_iff_exists, Properties.isSome_getString key default ""]
    apply hstrings key hkey
  have hint : ∀ key ∈ Properties.intKeys, ∀ default,
      ∃ v, config.getInt key default = some v := by
    intro key hkey default
    rw [← Option.isSome_iff_exists, Properties.isSome_getInt key default 0]
    apply hints key hkey
  obtain ⟨ip, hip⟩ := hstring "mongodb.ip" (by decide) "127.0.0.1"
  obtain ⟨port, hport⟩ := hint "mongodb.port" (by decide) 27017
  obtain ⟨database, hdatabase⟩ := hstring "mongodb.database" (by decide) "system_db"
  obtain ⟨tb_switch, htb_switch⟩ := hstring "mongodb.doorswitch" (by decide) "t_switch"
  obtain ⟨syncS, hsyncS⟩ := hint "mongodb.sync.interval" (by decide) 3600
  obtain ⟨mqttIp, hmqttIp⟩ := hstring "mqtt.ip" (by decide) "127.0.0.1"
  obtain ⟨mqttPort, hmqttPort⟩ := hint "mqtt.port" (by decide) 1883
  obtain ⟨topic, htopic⟩ := hstring "mqtt.topic" (by decide) "seeta_switch_open"
  simp [parseConfiguration, assignments, assignAll, Properties.cfg, hip, hport, hdatabase,
    htb_switch, hsyncS, hmqttIp, hmqttPort, htopic]

/-- `main` serves when every property can be read and the settings can be loaded, and returns
`EXIT_OK` when they cannot. -/
theorem main_eq (cast : SwitchTypeCast) (config : Properties) (database : MongoCfg → Cursor) :
  main cast config database
    = if config.Readable then
        if (loadSwitchSetting cast .empty (database config.cfg.m_mongoCfg)).2 then
          .serve config.cfg (SvrCfg.load cast (database config.cfg.m_mongoCfg))
        else .exit .EXIT_OK
      else .exit .EXIT_CONFIG
  := by
  rw [main]
  split_ifs with hreadable hloaded
  · rw [parseConfiguration_of_readable hreadable]
    simp [hloaded]
  · rw [parseConfiguration_of_readable hreadable]
    simp [hloaded]
  · have hres := parseConfiguration_of_not_readable hreadable {}
    generalize parseConfiguration config {} = x at hres
    obtain ⟨cfg, res⟩ := x
    obtain rfl := hres
    rfl

/-! ### Where the settings come from -/

/-- Every record of the map is one that a document gives. -/
def Documented (cast : SwitchTypeCast) (docs : List Document) (m : OrdMap String SwitchInfo) :
    Prop :=
  m.All (fun _ info => ∃ doc ∈ docs, doc.record cast = some (some info))

theorem Documented.loadDocuments {cast : SwitchTypeCast} {all : List Document} :
    ∀ {docs : List Document} {m : OrdMap String SwitchInfo}, Documented cast all m →
      (∀ doc ∈ docs, doc ∈ all) → Documented cast all (loadDocuments cast m docs).1
  | [], _, h, _ => h
  | doc :: docs, m, h, hsub => by
      have hdocs : ∀ d ∈ docs, d ∈ all := fun d hd => hsub d (List.mem_cons_of_mem doc hd)
      rw [DoorSwitchSvr.loadDocuments]
      split
      next => apply h
      next => apply Documented.loadDocuments h hdocs
      next record hrecord =>
        apply Documented.loadDocuments _ hdocs
        apply OrdMap.All.insert h
        use doc, hsub doc List.mem_cons_self

theorem Documented.loadSwitchSetting {cast : SwitchTypeCast} {all : List Document} :
    ∀ {cursor : Cursor} {m : OrdMap String SwitchInfo}, Documented cast all m →
      (∀ doc ∈ cursor.documents, doc ∈ all) →
      Documented cast all (loadSwitchSetting cast m cursor).1
  | .failed, _, h, _ => h
  | .last docs, _, h, hsub => h.loadDocuments hsub
  | .more docs rest, m, h, hsub => by
      have hrest : ∀ d ∈ rest.documents, d ∈ all :=
        fun d hd => hsub d (List.mem_append_right docs hd)
      have hload := h.loadDocuments (fun d hd => hsub d (List.mem_append_left rest.documents hd))
      rw [DoorSwitchSvr.loadSwitchSetting]
      split
      next heq =>
        rw [heq] at hload
        apply hload
      next heq =>
        rw [heq] at hload
        apply Documented.loadSwitchSetting hload hrest

theorem SvrCfg.documented_load (cast : SwitchTypeCast) (cursor : Cursor) :
  Documented cast cursor.documents (SvrCfg.load cast cursor).m_mapOidSwitchInfo
  := by
  apply Documented.loadSwitchSetting (OrdMap.All.empty _)
  exact fun _ hdoc => hdoc

/-- The record of a document has its id, and its number of channels converted to
`unsigned short`. -/
theorem Document.record_eq_some {cast : SwitchTypeCast} {doc : Document} {info : SwitchInfo}
    (h : doc.record cast = some (some info)) :
  ∃ id channels, doc.getObjectId "_id" = some id ∧ info.oid = id.toString
    ∧ doc.getInt "channels" = some channels ∧ info.channels = channels.toUInt32.toUInt16
  := by
  obtain ⟨id, hid, h⟩ := Option.bind_eq_some_iff.mp h
  simp only at h
  split_ifs at h
  · cases Option.some.inj h
  obtain ⟨ip, hip, h⟩ := Option.bind_eq_some_iff.mp h
  obtain ⟨port, hport, h⟩ := Option.bind_eq_some_iff.mp h
  obtain ⟨channels, hchannels, h⟩ := Option.bind_eq_some_iff.mp h
  obtain ⟨type, htype, h⟩ := Option.bind_eq_some_iff.mp h
  obtain rfl := Option.some.inj (Option.some.inj h)
  exact ⟨id, channels, hid, rfl, hchannels, rfl⟩

/-- A number of channels that is not negative is at least what it is converted to. -/
theorem toNat_toUInt16_le {channels : Int32} (h : 0 ≤ channels.toInt) :
  (channels.toUInt32.toUInt16.toNat : Int) ≤ channels.toInt
  := by
  have hnat := channels.toUInt32.toNat_lt
  have hint : channels.toInt = (channels.toUInt32.toNat : Int).bmod (2 ^ 32) :=
    BitVec.toInt_eq_toNat_bmod channels.toBitVec
  rw [hint, Int.bmod_def] at h ⊢
  rw [UInt32.toNat_toUInt16]
  omega

/-- In every run of a server that `main` has started in which new switches are requested above
those before them, each command that a worker of a switch has sent, whether it has been written
or not, is for the channel of a message on the configured topic that names the switch.  The
switch is a document of the configured collection, and the channel is at most the number of
channels of the document, converted to `unsigned short`. -/
theorem commands_have_document (parse : String → Option OpenDoorRequest)
    (from_string : String → Bool) (cast : SwitchTypeCast) (config : Properties)
    (database : MongoCfg → Cursor) {cfg : ServerCfg} {m_config : SvrCfg}
    (hmain : main cast config database = .serve cfg m_config) (as : List Server.Action)
    {t : Server}
    (hok : Meets (Server.next parse from_string cfg.m_mqttCfg.m_topic)
      (Server.SwitchesAbove parse from_string cfg.m_mqttCfg.m_topic) (Server.initial m_config) as)
    (hrun : run (Server.next parse from_string cfg.m_mqttCfg.m_topic) (Server.initial m_config)
      as = some t)
    (oid : String) (p : UInt16 × DoorCommand)
    (hp : p ∈ (t.threads oid).issued ∨ p ∈ (t.threads oid).written) :
  ∃ message error free text req doc id channels, .message message error free ∈ as
    ∧ DoorSwitchMqttProxy.on_message cfg.m_mqttCfg.m_topic message = some text
    ∧ parse text = some req ∧ req.m_strSwitchId = oid
    ∧ (p.1.toNat : Int) = req.m_channel.toInt ∧ 1 ≤ p.1.toNat
    ∧ doc ∈ (database cfg.m_mongoCfg).documents
    ∧ doc.getObjectId "_id" = some id ∧ id.toString = oid
    ∧ doc.getInt "channels" = some channels
    ∧ p.1 ≤ channels.toUInt32.toUInt16
    ∧ (0 ≤ channels.toInt → (p.1.toNat : Int) ≤ channels.toInt)
  := by
  rw [main_eq] at hmain
  split_ifs at hmain
  obtain ⟨rfl, rfl⟩ := Outcome.serve.inj hmain
  obtain ⟨message, error, free, req, info, hmem, haccept, hoid, hkey⟩ :=
    Server.named_of_run parse from_string config.cfg.m_mqttCfg.m_topic _ hok hrun hp
  obtain ⟨text, htext, haccept'⟩ := Option.bind_eq_some_iff.mp haccept
  obtain ⟨hparse, hfind, hchannel⟩ := acceptedRequest_eq_some.mp haccept'
  obtain ⟨doc, hdoc, hrecord⟩ := SvrCfg.documented_load cast _ _ _ hfind
  obtain ⟨id, channels, hid, hinfo, hget, hchannels⟩ := Document.record_eq_some hrecord
  obtain ⟨hnat, hone, hle⟩ := Server.key_of_supported hchannel
  rw [hkey] at hnat hone hle
  rw [hchannels] at hle
  use message, error, free, text, req, doc, id, channels, hmem, htext, hparse, hoid, hnat, hone,
    hdoc, hid
  refine ⟨?_, hget, hle, ?_⟩
  · rw [← hinfo, acceptedRequest_oid haccept', hoid]
  · intro hnonneg
    have hwrapped := toNat_toUInt16_le hnonneg
    have hle' := UInt16.le_iff_toNat_le.mp hle
    omega

/-- Properties without a text. -/
def defaults : Properties := ⟨fun _ => none, fun _ => none, fun _ => none⟩

/-- A collection with one switch. -/
def oneSwitch (_ : MongoCfg) : Cursor := .last [switchDocument (idOf 17) "127.0.0.1" 8]

/-- The switch of `oneSwitch` is requested, and its door is opened. -/
def openedDefault : List Server.Action :=
  .message ⟨"seeta_switch_open", some namedMessage.toList⟩ false true
    :: List.replicate 4 (.handler "111111111111111111111111" (.work 1 0))

theorem commands_have_document_one :
  ∃ t, run (Server.next parseNamed (fun ip => ip = "127.0.0.1") "seeta_switch_open")
      (Server.initial (SvrCfg.load .keeping (oneSwitch {}))) openedDefault = some t
    ∧ (t.threads "111111111111111111111111").written = [(1, .openCommand)]
    ∧ ∃ message error free text req doc id channels, .message message error free ∈ openedDefault
      ∧ DoorSwitchMqttProxy.on_message "seeta_switch_open" message = some text
      ∧ parseNamed text = some req ∧ req.m_strSwitchId = "111111111111111111111111"
      ∧ ((1 : UInt16).toNat : Int) = req.m_channel.toInt ∧ 1 ≤ (1 : UInt16).toNat
      ∧ doc ∈ (oneSwitch {}).documents
      ∧ doc.getObjectId "_id" = some id ∧ id.toString = "111111111111111111111111"
      ∧ doc.getInt "channels" = some channels
      ∧ 1 ≤ channels.toUInt32.toUInt16
      ∧ (0 ≤ channels.toInt → ((1 : UInt16).toNat : Int) ≤ channels.toInt)
  := by
  have hwritten : (run (Server.next parseNamed (fun ip => ip = "127.0.0.1") "seeta_switch_open")
      (Server.initial (SvrCfg.load .keeping (oneSwitch {}))) openedDefault).map
        (fun t => (t.threads "111111111111111111111111").written) = some [(1, .openCommand)] := by
    decide +kernel
  obtain ⟨t, hrun, ht⟩ := Option.map_eq_some_iff.mp hwritten
  use t, hrun, ht
  have hmain : main .keeping defaults oneSwitch
      = .serve defaults.cfg (SvrCfg.load .keeping (oneSwitch {})) := rfl
  have hok : Meets (Server.next parseNamed (fun ip => ip = "127.0.0.1") "seeta_switch_open")
      (Server.SwitchesAbove parseNamed (fun ip => ip = "127.0.0.1") "seeta_switch_open")
      (Server.initial (SvrCfg.load .keeping (oneSwitch {}))) openedDefault := by
    decide +kernel
  exact commands_have_document parseNamed (fun ip => ip = "127.0.0.1") .keeping defaults oneSwitch
    hmain openedDefault hok hrun "111111111111111111111111" (1, .openCommand)
    (Or.inr (by rw [ht]; exact List.mem_singleton_self _))

end DoorSwitchSvr
