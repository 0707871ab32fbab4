import RadioLifecycle.Json.Presentation
import RadioLifecycle.Lifecycle.Exchange
import RadioLifecycle.Lifecycle.Phase
import RadioLifecycle.Proofs.Json.Document
import RadioLifecycle.Settings.Loading
import RadioLifecycle.Simulation.Exchange

/-!
What is written is read back. A value of any type with a written form is told by what is written of
it, be it a name, a number, a record with fields that are left empty, or a list of records. This is
shown of the documents, field by field, and carries over to their texts.
-/

namespace RadioLifecycle

namespace Json

variable {members : List (String × Value)}

theorem valuesOf_cons (key : String) (member : String × Value)
    (rest : List (Option String × Value)) :
    valuesOf key ((some member.1, member.2) :: rest) =
      (if member.1 = key then [member.2] else []) ++ valuesOf key rest := by
  by_cases h : member.1 = key <;> simp [valuesOf, h]

theorem valuesOf_of_not_mem {key : String} (h : key ∉ members.map (·.1)) :
    valuesOf key (members.map fun (k, v) => (some k, v)) = [] := by
  induction members with
  | nil => rfl
  | cons first rest ih =>
      rw [List.map_cons, List.mem_cons, not_or] at h
      rw [List.map_cons, valuesOf_cons, ih h.2, if_neg (Ne.symm h.1), List.append_nil]

/-- A key that is not repeated has the one value it was written with. -/
theorem single?_of_mem (hKeys : (members.map (·.1)).Nodup) {member : String × Value}
    (hMember : member ∈ members) :
    single? member.1 (members.map fun (k, v) => (some k, v)) = some (some member.2) := by
  have hValues : valuesOf member.1 (members.map fun (k, v) => (some k, v)) = [member.2] := by
    induction members with
    | nil => cases hMember
    | cons first rest ih =>
        rw [List.map_cons, List.nodup_cons] at hKeys
        rw [List.map_cons, valuesOf_cons]
        rcases List.mem_cons.mp hMember with rfl | hLater
        · rw [if_pos rfl, valuesOf_of_not_mem hKeys.1, List.append_nil]
        · have hOther : first.1 ≠ member.1 := by
            intro hSame
            rw [hSame] at hKeys
            exact hKeys.1 (List.mem_map_of_mem hLater)
          rw [if_neg hOther, ih hKeys.2 hLater, List.nil_append]
  rw [single?, hValues]

/-- A record has all the fields it was written with. -/
theorem fields?_ofMembers (hKeys : (members.map (·.1)).Nodup) :
    Format.fields? (members.map (·.1)) (Value.ofMembers members) =
      some (members.map fun member => some member.2) := by
  have hAll : ∀ part : List (String × Value), (∀ member ∈ part, member ∈ members) →
      (part.map (·.1)).mapM (single? · (members.map fun (k, v) => (some k, v))) =
        some (part.map fun member => some member.2) := by
    intro part hPart
    induction part with
    | nil => rfl
    | cons member rest ih =>
        have hRest := ih fun m hm => hPart m (List.mem_cons_of_mem _ hm)
        have hMember := single?_of_mem hKeys (hPart member List.mem_cons_self)
        rw [List.map_cons, List.mapM_cons, hMember, hRest]
        rfl
  change Value.fields? _ _ = _
  rw [Value.ofMembers, Value.fields?, if_pos (by simp), hAll members fun _ h => h]

end Json

namespace Portable

open Json (Value)

/-- A type whose values are told by what is written of them: that is a plain document, it is no
null, and it is read as the value. -/
class Faithful (α : Type) [Portable α] : Prop where
  plain_write : ∀ a : α, (write a).Plain
  isNull_write : ∀ a : α, (write a).isNull = false
  read?_write : ∀ a : α, read? (write a) = some a

attribute [simp] Faithful.plain_write Faithful.read?_write

variable {α : Type}

instance : Faithful String where
  plain_write s := .text s
  isNull_write _ := rfl
  read?_write _ := rfl

/-- Names tell the values of a vocabulary apart. -/
instance [Named α] : Faithful α where
  plain_write a := .text (Named.name a)
  isNull_write _ := rfl
  read?_write a := Named.ofName?_name a

instance [Portable α] [Faithful α] : Faithful (List α) where
  plain_write l := by
    apply Value.Plain.array
    intro item hItem
    obtain ⟨a, _, rfl⟩ := List.mem_map.mp hItem
    exact Faithful.plain_write a
  isNull_write _ := rfl
  read?_write l := by
    change (l.map write).mapM read? = some l
    induction l with
    | nil => rfl
    | cons a rest ih => simp [ih]

instance : Faithful UInt32 where
  plain_write n := .natural n.toNat
  isNull_write _ := rfl
  read?_write n := by
    change ((Decimal.read? (Decimal.write n.toNat)).filter (· < UInt32.size)).map UInt32.ofNat =
      some n
    have hBound : n.toNat < UInt32.size := n.toNat_lt
    rw [Decimal.read?_write, Option.filter_some, if_pos (decide_eq_true hBound), Option.map_some,
      UInt32.ofNat_toNat]

/-! Fields of records. -/

variable [Portable α] [Faithful α]

@[simp] theorem required_write (a : α) : required (some (write a)) = some a :=
  Faithful.read?_write a

@[simp] theorem defaulted_write (standard a : α) : defaulted standard (some (write a)) = some a :=
  Faithful.read?_write a

/-- A value that is left out is written as a null, and no other value is. -/
@[simp] theorem nullable_writeOption (o : Option α) : nullable (some (writeOption o)) = some o := by
  cases o with
  | none => rfl
  | some a =>
      change (if (write a).isNull then _ else (read? (write a)).map some) = _
      rw [Faithful.isNull_write, if_neg Bool.false_ne_true, Faithful.read?_write, Option.map_some]

@[simp] theorem plain_writeOption (o : Option α) : (writeOption o).Plain := by
  cases o with
  | none => exact .null
  | some a => exact Faithful.plain_write a

end Portable

open Portable (Faithful)

instance : Faithful CommandId where
  plain_write c := Faithful.plain_write c.number
  isNull_write c := Faithful.isNull_write c.number
  read?_write c := by
    change (Portable.read? (Portable.write c.number)).map CommandId.mk = some c
    rw [Faithful.read?_write, Option.map_some]

instance : Faithful StartFailure where
  plain_write f := .object (by simp)
  isNull_write _ := rfl
  read?_write f := by
    have hFields : Format.fields? ["reason", "description"] (Portable.write f) =
        some [some (Portable.write f.category), some (Portable.write f.description)] :=
      Json.fields?_ofMembers (by simp)
    simp only [Portable.read?, hFields]
    simp

instance : Faithful ChipReport where
  plain_write r := .object (by simp)
  isNull_write _ := rfl
  read?_write r := by
    have hFields : Format.fields? ["driver_description", "firmware_description"]
        (Portable.write r) =
          some [some (Portable.write r.driver), some (Portable.write r.firmware)] :=
      Json.fields?_ofMembers (by simp)
    simp only [Portable.read?, hFields]
    simp

instance : Faithful ChipMode where
  plain_write m := .object (by simp)
  isNull_write _ := rfl
  read?_write m := by
    have hFields : Format.fields? ["id"] (Portable.write m) = some [some (Portable.write m.id)] :=
      Json.fields?_ofMembers (by simp)
    simp only [Portable.read?, hFields]
    simp

namespace Settings

instance : Faithful Shared where
  plain_write s := .object (by simp)
  isNull_write _ := rfl
  read?_write s := by
    have hFields : Format.fields? ["log_level", "service_name"] (Portable.write s) =
        some [some (Portable.write s.logLevel), some (Portable.write s.serviceName)] :=
      Json.fields?_ofMembers (by simp)
    simp only [Portable.read?, hFields]
    simp

instance : Faithful Selection where
  plain_write s := .object (by simp)
  isNull_write _ := rfl
  read?_write s := by
    have hFields : Format.fields? ["vendor", "interface_name"] (Portable.write s) =
        some [some (Portable.write s.vendor), some (Portable.writeOption s.interfaceName)] :=
      Json.fields?_ofMembers (by simp)
    simp only [Portable.read?, hFields]
    simp

end Settings

namespace Simulation

instance : Faithful Interface where
  plain_write i := .object (by simp)
  isNull_write _ := rfl
  read?_write i := by
    have hFields : Format.fields? ["name", "name_error"] (Portable.write i) =
        some [some (Portable.write i.name), some (Portable.writeOption i.nameError)] :=
      Json.fields?_ofMembers (by simp)
    simp only [Portable.read?, hFields]
    simp

instance : Faithful Behaviour where
  plain_write b := .object (by simp)
  isNull_write _ := rfl
  read?_write b := by
    have hFields : Format.fields? Behaviour.fieldNames (Portable.write b) =
        some [some (Portable.write b.interfaces), some (Portable.write b.driverVersion),
          some (Portable.write b.firmwareVersion), some (Portable.writeOption b.bringUpError),
          some (Portable.writeOption b.enumerationError),
          some (Portable.writeOption b.driverVersionError),
          some (Portable.writeOption b.firmwareVersionError)] :=
      Json.fields?_ofMembers (by simp)
    simp only [Portable.read?, hFields]
    simp

end Simulation

namespace Json

/-- Each value of a type is parsed from the text that is written of it, and writing what was parsed
gives that text again. -/
def ReadsBack (α : Type) [Portable α] : Prop :=
  ∀ a : α, let text := (Portable.write a).render
    parse? text = some a ∧
      (parse? (α := α) text).map (fun b => (Portable.write b).render) = some text

theorem readsBack_of_faithful (α : Type) [Portable α] [Faithful α] : ReadsBack α := by
  intro a
  have hParse : parse? (Portable.write a).render = some a := by
    rw [parse?, read?_render (Faithful.plain_write a), Option.bind_some, Faithful.read?_write]
  exact ⟨hParse, by rw [hParse, Option.map_some]⟩

/-- Everything that is exchanged with clients or configured as a record or a name is read back as it
was written. -/
theorem parse?_render_write :
    ReadsBack StartFailure ∧ ReadsBack ChipReport ∧ ReadsBack ChipMode ∧ ReadsBack CommandId ∧
      ReadsBack Phase ∧ ReadsBack FailureCategory ∧ ReadsBack Vendor.Status ∧
      ReadsBack LogLevel ∧ ReadsBack Settings.Shared ∧ ReadsBack Settings.Selection ∧
      ReadsBack Simulation.Interface ∧ ReadsBack Simulation.Behaviour :=
  ⟨readsBack_of_faithful _, readsBack_of_faithful _, readsBack_of_faithful _,
    readsBack_of_faithful _, readsBack_of_faithful _, readsBack_of_faithful _,
    readsBack_of_faithful _, readsBack_of_faithful _, readsBack_of_faithful _,
    readsBack_of_faithful _, readsBack_of_faithful _, readsBack_of_faithful _⟩

end Json

end RadioLifecycle
