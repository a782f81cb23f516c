import BlinkBench.Manifest.Json
import BlinkBench.Manifest.Validate
import BlinkBench.Proofs.Json.Records
import BlinkBench.Proofs.Json.Text
/-!
# Manifests that are read back

Each part of a manifest is written with all its fields and read back from them, so no default takes the
place of what was written. `read_back_manifest` says so of whole manifests, whether or not they pass
their checks.
-/
namespace BlinkBench

open Json

/-! ## The format -/

namespace Json

@[simp] theorem format_text? : format.text? = text? := rfl

@[simp] theorem format_uint64? : format.uint64? = uint64? := rfl

@[simp] theorem format_uint8? : format.uint8? = uint8? := rfl

@[simp] theorem format_limit? : format.limit? = optional? uint64? := rfl

@[simp] theorem format_strategy? : format.strategy? = DelayStrategy.ofJson? := rfl

@[simp] theorem format_list? {α : Type} (item? : Decoder α) : format.list? item? = list? item? := rfl

@[simp] theorem format_fields? (known : List String) (v : Json) :
    format.fields? known v = fields? known .refused v := rfl

@[simp] theorem format_port? : format.port? = PortSpec.ofJson? := rfl

@[simp] theorem format_register? : format.register? = RegisterSpec.ofJson? := rfl

@[simp] theorem format_board? : format.board? = Board.ofJson? := rfl

@[simp] theorem format_delay? : format.delay? = DelaySettings.ofJson? := rfl

@[simp] theorem format_limits? : format.limits? = Limits.ofJson? := rfl

end Json

/-! ## Ports and registers -/

theorem PortSpec.inverts : Inverts PortSpec.toJson PortSpec.ofJson? where
  read p := by
    rw [toJson, ofJson?, Format.port?, format_fields?, fields?_obj .refused (by rfl) (by decide)]
    simp [field?, List.lookup_cons, inverts_str.read, inverts_uint64.read]
  plain p := .obj (by simp [inverts_uint64.plain, Plain.str])

theorem RegisterSpec.inverts : Inverts RegisterSpec.toJson RegisterSpec.ofJson? where
  read r := by
    rw [toJson, ofJson?, Format.register?, format_fields?, fields?_obj .refused (by rfl) (by decide)]
    simp [field?, fieldOr?, List.lookup_cons, inverts_str.read, inverts_uint64.read, inverts_uint8.read]
  plain r := .obj (by simp [inverts_uint64.plain, inverts_uint8.plain, Plain.str])

theorem Board.inverts : Inverts Board.toJson Board.ofJson? where
  read b := by
    rw [toJson, ofJson?, Format.board?, format_fields?, fields?_obj .refused (by rfl) (by decide)]
    simp [field?, fieldOr?, List.lookup_cons, inverts_str.read, inverts_uint64.read,
      PortSpec.inverts.list.read, RegisterSpec.inverts.list.read]
  plain b := .obj (by
    simp [inverts_uint64.plain, PortSpec.inverts.list.plain, RegisterSpec.inverts.list.plain,
      Plain.str])

/-! ## Delays and limits -/

theorem DelayStrategy.inverts : Inverts DelayStrategy.toJson DelayStrategy.ofJson? :=
  inverts_name fun s => by cases s <;> rfl

theorem DelaySettings.inverts : Inverts DelaySettings.toJson DelaySettings.ofJson? where
  read d := by
    rw [toJson, ofJson?, Format.delay?, format_fields?, fields?_obj .refused (by rfl) (by decide)]
    simp [fieldOr?, List.lookup_cons, inverts_uint64.read, DelayStrategy.inverts.read]
  plain d := .obj (by simp [inverts_uint64.plain, DelayStrategy.inverts.plain])

theorem inverts_limit : Inverts (ofOption ofUInt64) (optional? uint64?) :=
  inverts_uint64.optional fun _ h => by cases h

theorem Limits.inverts : Inverts Limits.toJson Limits.ofJson? where
  read l := by
    rw [toJson, ofJson?, Format.limits?, format_fields?, fields?_obj .refused (by rfl) (by decide)]
    simp [fieldOr?, List.lookup_cons, inverts_limit.read]
  plain l := .obj (by simp [inverts_limit.plain])

/-! ## Manifests -/

theorem Manifest.inverts : Inverts Manifest.toJson Manifest.ofJson? where
  read m := by
    rw [toJson, ofJson?, Format.manifest?, format_fields?, fields?_obj .refused (by rfl) (by decide)]
    simp [field?, fieldOr?, List.lookup_cons, inverts_str.read, Board.inverts.read,
      DelaySettings.inverts.read, Limits.inverts.read]
  plain m := .obj (by
    simp [Board.inverts.plain, DelaySettings.inverts.plain, Limits.inverts.plain, Plain.str])

/-- A manifest that is written with all its fields is read back as it was, from the value and from the
text of the value, and it passes or fails its checks as before. -/
theorem read_back_manifest (m : Manifest) : Manifest.ofJson? m.toJson = some m ∧
    (parse? m.toJson.pretty).bind Manifest.ofJson? = some m ∧
    (Manifest.ofJson? m.toJson).map Manifest.validate = some m.validate := by
  have hread := Manifest.inverts.read m
  refine ⟨hread, ?_, by rw [hread, Option.map_some]⟩
  rw [parse?_pretty (Manifest.inverts.plain m), Option.bind_some, hread]

end BlinkBench
