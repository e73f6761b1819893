import DoorSwitchSvr.Lib.Framing
import DoorSwitchSvr.Param
import Mathlib.Data.List.Basic

/-!
# Documents of the database

A document of the collection of switches is a list of fields, each with a name and a value of
some type.  `get` of a field throws when there is no field of the name, and when its value is
of another type; a thrown exception is `none`.

The id of a document is written with two hexadecimal digits for each of its bytes, so that
different ids have different texts (`toString_injective`).
-/

namespace DoorSwitchSvr

/-- The id of a document. -/
structure ObjectId where
  bytes : Vector UInt8 12
  deriving DecidableEq

namespace ObjectId

/-- A byte in the format `%02x`. -/
def hexByte (b : UInt8) : List Char :=
  [Nat.digitChar (b.toNat / 16), Nat.digitChar (b.toNat % 16)]

def toString (id : ObjectId) : String :=
  String.ofList (id.bytes.toList.flatMap hexByte)

theorem eq_of_digitChar_eq :
  ∀ m < 16, ∀ n < 16, Nat.digitChar m = Nat.digitChar n → m = n
  := by
  decide

theorem hexByte_injective :
  Function.Injective hexByte
  := by
  intro b b' h
  have hlt := b.toNat_lt
  have hlt' := b'.toNat_lt
  obtain ⟨hhigh, hlow⟩ := List.cons.inj h
  have hdiv := eq_of_digitChar_eq _ (by omega) _ (by omega) hhigh
  have hmod := eq_of_digitChar_eq _ (by omega) _ (by omega) (List.cons.inj hlow).1
  apply UInt8.toNat_inj.mp
  omega

theorem toString_injective :
  Function.Injective toString
  := by
  intro id id' h
  have hcut : ∀ bytes : List UInt8, Framing.cut 2 (bytes.flatMap hexByte) = bytes.map hexByte := by
    intro bytes
    rw [List.flatMap_def]
    apply Framing.cut_flatten (by decide)
    intro f hf
    obtain ⟨b, -, rfl⟩ := List.mem_map.mp hf
    rfl
  have hbytes : id.bytes.toList = id'.bytes.toList := by
    apply hexByte_injective.list_map
    rw [← hcut, ← hcut, String.ofList_injective h]
  rw [ObjectId.mk.injEq]
  apply Vector.toList_inj.mp hbytes

end ObjectId

/-- The value of a field. -/
inductive Value where
  | objectId (id : ObjectId)
  | string (s : String)
  | int32 (n : Int32)
  | int64 (n : Int64)
  | other
  deriving DecidableEq

/-- The fields of a document, each with its name. -/
structure Document where
  fields : List (String × Value)
  deriving DecidableEq

/-- The value of the first field of the name. -/
def Document.find (doc : Document) (name : String) : Option Value := doc.fields.lookup name

def Document.exists (doc : Document) (name : String) : Bool := (doc.find name).isSome

namespace Document

/-- `get<ObjectId::Ptr>`. -/
def getObjectId (doc : Document) (name : String) : Option ObjectId :=
  match doc.find name with
  | some (.objectId id) => some id
  | _ => none

/-- `get<std::string>`. -/
def getString (doc : Document) (name : String) : Option String :=
  match doc.find name with
  | some (.string s) => some s
  | _ => none

/-- `get<int>`, which throws on a number of 64 bits. -/
def getInt (doc : Document) (name : String) : Option Int32 :=
  match doc.find name with
  | some (.int32 n) => some n
  | _ => none

/-- The document has an id, and what it has of the fields of a switch is of their types. -/
structure WellTyped (doc : Document) : Prop where
  _id : ∃ id, doc.find "_id" = some (.objectId id)
  ip : ∀ v, doc.find "ip" = some v → ∃ s, v = .string s
  port : ∀ v, doc.find "port" = some v → ∃ n, v = .int32 n
  channels : ∀ v, doc.find "channels" = some v → ∃ n, v = .int32 n
  type : ∀ v, doc.find "type" = some v → ∃ n, v = .int32 n

theorem exists_eq_isSome_getString {doc : Document} {name : String}
    (h : ∀ v, doc.find name = some v → ∃ s, v = .string s) :
  doc.exists name = (doc.getString name).isSome
  := by
  rw [Document.exists, getString]
  cases hfind : doc.find name with
  | none => rfl
  | some v =>
      obtain ⟨s, rfl⟩ := h v hfind
      rfl

theorem exists_eq_isSome_getInt {doc : Document} {name : String}
    (h : ∀ v, doc.find name = some v → ∃ n, v = .int32 n) :
  doc.exists name = (doc.getInt name).isSome
  := by
  rw [Document.exists, getInt]
  cases hfind : doc.find name with
  | none => rfl
  | some v =>
      obtain ⟨n, rfl⟩ := h v hfind
      rfl

end Document

end DoorSwitchSvr
