import DoorSwitchSvr.Document
import DoorSwitchSvr.Lib.OrdMap
import Mathlib.Algebra.Group.Int.Defs
import Mathlib.Data.List.Dedup
import Mathlib.Data.String.Basic

/-!
# The settings of the switches

`loadSwitchSetting` reads the documents of the collection of switches, batch by batch, and
puts a record for each document that has all fields into a map, under the id of the document.
A document that lacks a field is skipped, and a second one with the same id does not replace
the first.

The numbers of a document are of 32 bits.  `port` and `channels` are narrowed to 16 bits, and
`type` is cast to the enumeration, without a look at their values: a switch with -1 channels
is loaded as one with 65535 (`channels_wrapped`).  The map has exactly the values of the
documents if and only if those of the first document of each id fit (`faithful_iff`).
-/

namespace DoorSwitchSvr

/-- The number of a control mode. -/
def SWITCH_TYPE.toInt32 : SWITCH_TYPE → Int32
  | .DIRECT_CONTROL_SWITCH => 0
  | .INDIRECT_CONTROL_SWITCH => 1
  | .other value => value

/-- The cast of an `int` to `SWITCH_TYPE`, whose value is unspecified when the number is not
one of the enumeration. -/
structure SwitchTypeCast where
  cast : Int32 → SWITCH_TYPE
  cast_zero : cast 0 = .DIRECT_CONTROL_SWITCH
  cast_one : cast 1 = .INDIRECT_CONTROL_SWITCH

/-- The cast that keeps every number. -/
def SwitchTypeCast.keeping : SwitchTypeCast where
  cast n :=
    if n = 0 then .DIRECT_CONTROL_SWITCH
    else if n = 1 then .INDIRECT_CONTROL_SWITCH
    else .other n
  cast_zero := rfl
  cast_one := rfl

/-- The answers of the database to the calls of `next`, each the documents of a batch: the
last one is that with the cursor id 0, and `failed` is a call that throws. -/
inductive Cursor where
  | failed
  | last (documents : List Document)
  | more (documents : List Document) (rest : Cursor)

/-- What the body of the loop over the documents does with one: `none` when it throws, and
otherwise the record that it inserts, if it inserts one. -/
def Document.record (cast : SwitchTypeCast) (doc : Document) : Option (Option SwitchInfo) := do
  let oid := (← doc.getObjectId "_id").toString
  if ¬ doc.exists "ip" ∨ ¬ doc.exists "port" ∨ ¬ doc.exists "channels" ∨ ¬ doc.exists "type" then
    return none
  let ip ← doc.getString "ip"
  let port := (← doc.getInt "port").toUInt32.toUInt16
  let channels := (← doc.getInt "channels").toUInt32.toUInt16
  let type := cast.cast (← doc.getInt "type")
  return some { oid := oid, ip := ip, channels := channels, port := port, type := type }

/-- The map after the documents of a batch, and whether none of them has thrown. -/
def loadDocuments (cast : SwitchTypeCast) (m : OrdMap String SwitchInfo) :
    List Document → OrdMap String SwitchInfo × Bool
  | [] => (m, true)
  | doc :: docs =>
      match doc.record cast with
      | none => (m, false)
      | some none => loadDocuments cast m docs
      | some (some record) => loadDocuments cast (m.insert record.oid record) docs

/-- The map after all batches, and whether nothing has thrown. -/
def loadSwitchSetting (cast : SwitchTypeCast) (mapOidSwitchInfo : OrdMap String SwitchInfo) :
    Cursor → OrdMap String SwitchInfo × Bool
  | .failed => (mapOidSwitchInfo, false)
  | .last docs => loadDocuments cast mapOidSwitchInfo docs
  | .more docs rest =>
      match loadDocuments cast mapOidSwitchInfo docs with
      | (m, false) => (m, false)
      | (m, true) => loadSwitchSetting cast m rest

/-! ### Settings -/

/-- The values of a document that has all fields of a switch. -/
structure Setting where
  id : ObjectId
  ip : String
  port : Int32
  channels : Int32
  type : Int32
  deriving DecidableEq

/-- The setting in a document, if it has all fields. -/
def Document.setting (doc : Document) : Option Setting := do
  let id ← doc.getObjectId "_id"
  let ip ← doc.getString "ip"
  let port ← doc.getInt "port"
  let channels ← doc.getInt "channels"
  let type ← doc.getInt "type"
  return { id := id, ip := ip, port := port, channels := channels, type := type }

namespace Setting

/-- The record for a setting. -/
def info (cast : SwitchTypeCast) (x : Setting) : SwitchInfo where
  oid := x.id.toString
  ip := x.ip
  channels := x.channels.toUInt32.toUInt16
  port := x.port.toUInt32.toUInt16
  type := cast.cast x.type

/-- The record has the values of the setting. -/
structure Kept (x : Setting) (info : SwitchInfo) : Prop where
  oid : info.oid = x.id.toString
  ip : info.ip = x.ip
  port : (info.port.toNat : Int) = x.port.toInt
  channels : (info.channels.toNat : Int) = x.channels.toInt
  type : info.type.toInt32 = x.type

/-- The values fit into the types of the record. -/
structure Fits (x : Setting) : Prop where
  port : 0 ≤ x.port.toInt ∧ x.port.toInt < 2 ^ 16
  channels : 0 ≤ x.channels.toInt ∧ x.channels.toInt < 2 ^ 16
  type : x.type = 0 ∨ x.type = 1

end Setting

/-- What `record` does with a document whose fields are of their types. -/
theorem Document.WellTyped.record_eq {doc : Document} (h : doc.WellTyped) (cast : SwitchTypeCast) :
  doc.record cast = some (doc.setting.map (Setting.info cast))
  := by
  obtain ⟨id, hid⟩ := h._id
  have hid' : doc.getObjectId "_id" = some id := by
    rw [getObjectId, hid]
  rw [record, setting, hid', exists_eq_isSome_getString h.ip, exists_eq_isSome_getInt h.port,
    exists_eq_isSome_getInt h.channels, exists_eq_isSome_getInt h.type]
  cases doc.getString "ip" with
  | none => rfl
  | some ip =>
      cases doc.getInt "port" with
      | none => rfl
      | some port =>
          cases doc.getInt "channels" with
          | none => rfl
          | some channels => cases doc.getInt "type" <;> rfl

/-! ### The loaded map -/

/-- The entry that a setting is inserted as. -/
def Setting.entry (cast : SwitchTypeCast) (x : Setting) : String × SwitchInfo :=
  (x.id.toString, x.info cast)

namespace Cursor

/-- The documents of all batches. -/
def documents : Cursor → List Document
  | .failed => []
  | .last docs => docs
  | .more docs rest => docs ++ rest.documents

/-- The batches end with one that has the cursor id 0. -/
def Finished : Cursor → Prop
  | .failed => False
  | .last _ => True
  | .more _ rest => rest.Finished

/-- The settings in the documents of all batches. -/
def settings (cursor : Cursor) : List Setting := cursor.documents.filterMap Document.setting

end Cursor

theorem loadDocuments_eq (cast : SwitchTypeCast) {docs : List Document}
    (h : ∀ doc ∈ docs, doc.WellTyped) (m : OrdMap String SwitchInfo) :
  loadDocuments cast m docs
    = (m.insertAll ((docs.filterMap Document.setting).map (Setting.entry cast)), true)
  := by
  induction docs generalizing m with
  | nil => rfl
  | cons doc docs ih =>
      have hdocs : ∀ d ∈ docs, d.WellTyped := fun d hd => h d (List.mem_cons_of_mem doc hd)
      rw [loadDocuments, (h doc List.mem_cons_self).record_eq cast]
      cases hsetting : doc.setting with
      | none =>
          rw [List.filterMap_cons_none hsetting]
          apply ih hdocs
      | some x =>
          rw [List.filterMap_cons_some hsetting]
          apply ih hdocs

/-- The batches are loaded as if their documents were all in one, and without an exception. -/
theorem loadSwitchSetting_eq (cast : SwitchTypeCast) {cursor : Cursor}
    (hfinished : cursor.Finished) (h : ∀ doc ∈ cursor.documents, doc.WellTyped)
    (m : OrdMap String SwitchInfo) :
  loadSwitchSetting cast m cursor
    = (m.insertAll (cursor.settings.map (Setting.entry cast)), true)
  := by
  induction cursor generalizing m with
  | failed => cases hfinished
  | last docs => apply loadDocuments_eq cast h
  | more docs rest ih =>
      have hdocs : ∀ d ∈ docs, d.WellTyped := fun d hd => h d (List.mem_append_left _ hd)
      have hrest : ∀ d ∈ rest.documents, d.WellTyped := fun d hd => h d (List.mem_append_right _ hd)
      rw [loadSwitchSetting, loadDocuments_eq cast hdocs]
      simp only [ih hfinished hrest]
      rw [← OrdMap.insertAll_append, ← List.map_append, Cursor.settings, ← List.filterMap_append]
      rfl

/-- The first setting with an id. -/
def firstSetting (xs : List Setting) (id : ObjectId) : Option Setting :=
  xs.find? (fun x => x.id = id)

theorem lookup_entries (cast : SwitchTypeCast) (id : ObjectId) (xs : List Setting) :
  (xs.map (Setting.entry cast)).lookup id.toString = (firstSetting xs id).map (Setting.info cast)
  := by
  induction xs with
  | nil => rfl
  | cons x xs ih =>
      rw [List.map_cons, List.lookup_cons, firstSetting, List.find?_cons]
      rcases eq_or_ne x.id id with rfl | hne
      · simp [Setting.entry]
      · have hstring : id.toString ≠ x.id.toString := by
          intro heq
          apply hne (ObjectId.toString_injective heq).symm
        simp only [Setting.entry, beq_eq_false_iff_ne.mpr hstring, hne, decide_false]
        apply ih

/-! ### Faithful settings -/

/-- The map has one entry for each id of a setting, with the values of the first setting of
the id. -/
structure Faithful (xs : List Setting) (m : OrdMap String SwitchInfo) : Prop where
  keys : m.keys.Perm ((xs.map Setting.id).dedup.map ObjectId.toString)
  kept : ∀ id x, firstSetting xs id = some x →
    ∃ info, m.find id.toString = some info ∧ x.Kept info

/-- No switch ends up with a channel limit above the configured one. -/
theorem Faithful.channels_le {xs : List Setting} {m : OrdMap String SwitchInfo}
    (h : Faithful xs m) {id : ObjectId} {x : Setting} {info : SwitchInfo}
    (hfirst : firstSetting xs id = some x) (hfind : m.find id.toString = some info) :
  (info.channels.toNat : Int) ≤ x.channels.toInt
  := by
  obtain ⟨info', hfind', hkept⟩ := h.kept id x hfirst
  obtain rfl := Option.some.inj (hfind'.symm.trans hfind)
  rw [hkept.channels]

theorem keys_load (cast : SwitchTypeCast) (xs : List Setting) :
  ((OrdMap.empty : OrdMap String SwitchInfo).insertAll (xs.map (Setting.entry cast))).keys.Perm
    ((xs.map Setting.id).dedup.map ObjectId.toString)
  := by
  rw [List.perm_ext_iff_of_nodup (OrdMap.nodup_keys _)
    ((List.nodup_dedup _).map ObjectId.toString_injective)]
  intro oid
  have hempty : oid ∉ (OrdMap.empty : OrdMap String SwitchInfo).keys := List.not_mem_nil
  rw [OrdMap.mem_keys_insertAll, or_iff_right hempty]
  simp [Setting.entry, Function.comp_def]

theorem find_load (cast : SwitchTypeCast) (xs : List Setting) (id : ObjectId) :
  ((OrdMap.empty : OrdMap String SwitchInfo).insertAll (xs.map (Setting.entry cast))).find
      id.toString
    = (firstSetting xs id).map (Setting.info cast)
  := by
  rw [OrdMap.find_insertAll, lookup_entries]
  rfl

/-! ### When the settings are faithful -/

/-- A number narrowed to 16 bits is the same exactly when it fits. -/
theorem toNat_narrow_iff (n : Int32) :
  (n.toUInt32.toUInt16.toNat : Int) = n.toInt ↔ 0 ≤ n.toInt ∧ n.toInt < 2 ^ 16
  := by
  have hnat := n.toUInt32.toNat_lt
  have hint : n.toInt = (n.toUInt32.toNat : Int).bmod (2 ^ 32) :=
    BitVec.toInt_eq_toNat_bmod n.toBitVec
  rw [UInt32.toNat_toUInt16, hint, Int.bmod_def]
  omega

/-- The cast that makes every other number the number of a direct switch. -/
def SwitchTypeCast.directing : SwitchTypeCast where
  cast n := if n = 1 then .INDIRECT_CONTROL_SWITCH else .DIRECT_CONTROL_SWITCH
  cast_zero := rfl
  cast_one := rfl

/-- A setting that fits is kept by every cast. -/
theorem Setting.Fits.kept {x : Setting} (h : x.Fits) (cast : SwitchTypeCast) :
  x.Kept (x.info cast)
  := by
  constructor
  · rfl
  · rfl
  · apply (toNat_narrow_iff x.port).mpr h.port
  · apply (toNat_narrow_iff x.channels).mpr h.channels
  · rcases h.type with htype | htype
    · rw [info, htype, cast.cast_zero]
      rfl
    · rw [info, htype, cast.cast_one]
      rfl

/-- A setting that `directing` keeps fits. -/
theorem Setting.Fits.of_kept {x : Setting} (h : x.Kept (x.info .directing)) :
  x.Fits
  := by
  constructor
  · apply (toNat_narrow_iff x.port).mp h.port
  · apply (toNat_narrow_iff x.channels).mp h.channels
  · have htype : (if x.type = 1 then SWITCH_TYPE.INDIRECT_CONTROL_SWITCH
        else .DIRECT_CONTROL_SWITCH).toInt32 = x.type := h.type
    split_ifs at htype with hone
    · right
      apply hone
    · left
      apply htype.symm

/-- The settings are loaded faithfully, whatever the cast makes of numbers that are not in the
enumeration, if and only if the first setting of each id fits into the types of the
record. -/
theorem faithful_iff {cursor : Cursor} (hfinished : cursor.Finished)
    (htyped : ∀ doc ∈ cursor.documents, doc.WellTyped) :
  (∀ cast, (loadSwitchSetting cast .empty cursor).2 = true →
      Faithful cursor.settings (loadSwitchSetting cast .empty cursor).1)
    ↔ ∀ id x, firstSetting cursor.settings id = some x → x.Fits
  := by
  constructor
  · intro h id x hfirst
    have hdirecting := h .directing
    rw [loadSwitchSetting_eq _ hfinished htyped] at hdirecting
    obtain ⟨info, hfind, hkept⟩ := (hdirecting rfl).kept id x hfirst
    rw [find_load, hfirst] at hfind
    obtain rfl := Option.some.inj hfind
    apply Setting.Fits.of_kept hkept
  · intro h cast _
    rw [loadSwitchSetting_eq cast hfinished htyped]
    constructor
    · apply keys_load
    · intro id x hfirst
      use x.info cast
      rw [find_load, hfirst]
      use rfl
      apply (h id x hfirst).kept cast

/-! ### Some documents -/

/-- The id whose bytes are all `b`. -/
def idOf (b : UInt8) : ObjectId := ⟨Vector.replicate 12 b⟩

/-- The document of a switch with an ip and a number of channels. -/
def switchDocument (id : ObjectId) (ip : String) (channels : Int32) : Document :=
  ⟨[("_id", .objectId id), ("ip", .string ip), ("port", .int32 10001),
    ("channels", .int32 channels), ("type", .int32 0)]⟩

/-- A document without the fields of a switch. -/
def bareDocument (id : ObjectId) : Document := ⟨[("_id", .objectId id)]⟩

theorem wellTyped_switchDocument (id : ObjectId) (ip : String) (channels : Int32) :
  (switchDocument id ip channels).WellTyped
  := by
  constructor
  · exact ⟨id, rfl⟩
  · intro v h
    exact ⟨ip, (Option.some.inj h).symm⟩
  · intro v h
    exact ⟨10001, (Option.some.inj h).symm⟩
  · intro v h
    exact ⟨channels, (Option.some.inj h).symm⟩
  · intro v h
    exact ⟨0, (Option.some.inj h).symm⟩

theorem wellTyped_bareDocument (id : ObjectId) :
  (bareDocument id).WellTyped
  := by
  constructor
  · exact ⟨id, rfl⟩
  all_goals
    intro v h
    cases h

/-- Two batches, in which one switch has a second document and another one has only its
id. -/
def twoBatches : Cursor :=
  .more [switchDocument (idOf 1) "192.168.1.10" 8, bareDocument (idOf 3)]
    (.last [switchDocument (idOf 2) "192.168.1.11" 16, switchDocument (idOf 1) "192.168.1.12" 2])

theorem wellTyped_twoBatches :
  ∀ doc ∈ twoBatches.documents, doc.WellTyped
  := by
  intro doc hdoc
  simp only [twoBatches, Cursor.documents, List.cons_append, List.nil_append, List.mem_cons,
    List.not_mem_nil, or_false] at hdoc
  rcases hdoc with rfl | rfl | rfl | rfl
  · apply wellTyped_switchDocument
  · apply wellTyped_bareDocument
  · apply wellTyped_switchDocument
  · apply wellTyped_switchDocument

theorem fits_twoBatches :
  ∀ x ∈ twoBatches.settings, x.Fits
  := by
  have hsettings : twoBatches.settings = [⟨idOf 1, "192.168.1.10", 10001, 8, 0⟩,
      ⟨idOf 2, "192.168.1.11", 10001, 16, 0⟩, ⟨idOf 1, "192.168.1.12", 10001, 2, 0⟩] := rfl
  intro x hx
  simp only [hsettings, List.mem_cons, List.not_mem_nil, or_false] at hx
  rcases hx with rfl | rfl | rfl <;> exact ⟨by decide, by decide, Or.inl rfl⟩

/-- The settings of `twoBatches` are loaded faithfully. -/
theorem faithful_iff_two :
  (loadSwitchSetting .keeping .empty twoBatches).2 = true
    ∧ Faithful twoBatches.settings (loadSwitchSetting .keeping .empty twoBatches).1
  := by
  have hfinished : twoBatches.Finished := trivial
  have hfits : ∀ id x, firstSetting twoBatches.settings id = some x → x.Fits := by
    intro id x hfirst
    apply fits_twoBatches x (List.mem_of_find?_eq_some hfirst)
  use rfl
  apply (faithful_iff hfinished wellTyped_twoBatches).mpr hfits .keeping rfl

/-- A switch whose number of channels is negative. -/
def negativeChannels : Cursor := .last [switchDocument (idOf 1) "192.168.1.10" (-1)]

/-- The switch of `negativeChannels` is loaded with 65535 channels. -/
theorem channels_wrapped :
  negativeChannels.Finished ∧ (∀ doc ∈ negativeChannels.documents, doc.WellTyped)
    ∧ ∀ cast, (loadSwitchSetting cast .empty negativeChannels).2 = true
      ∧ ((loadSwitchSetting cast .empty negativeChannels).1.find (idOf 1).toString).map
          SwitchInfo.channels = some 65535
      ∧ ¬ Faithful negativeChannels.settings (loadSwitchSetting cast .empty negativeChannels).1
  := by
  have hfinished : negativeChannels.Finished := trivial
  have htyped : ∀ doc ∈ negativeChannels.documents, doc.WellTyped := by
    intro doc hdoc
    rw [List.mem_singleton.mp hdoc]
    apply wellTyped_switchDocument
  have hfirst : firstSetting negativeChannels.settings (idOf 1)
      = some ⟨idOf 1, "192.168.1.10", 10001, -1, 0⟩ := by decide
  refine ⟨hfinished, htyped, ?_⟩
  intro cast
  rw [loadSwitchSetting_eq cast hfinished htyped, find_load, hfirst]
  refine ⟨rfl, rfl, ?_⟩
  intro h
  obtain ⟨info, -, hkept⟩ := h.kept _ _ hfirst
  have hchannels := hkept.channels
  have hneg : (-1 : Int32).toInt = -1 := rfl
  rw [hneg] at hchannels
  omega

end DoorSwitchSvr
