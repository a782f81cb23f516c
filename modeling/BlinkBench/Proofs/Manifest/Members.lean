import BlinkBench.Proofs.Json.Places
import BlinkBench.Proofs.Manifest.Json
/-!
# The members of a manifest

The objects of a manifest hold its fields and nothing else, in any order. `read_members` says what
becomes of a manifest when the members of its objects are put in another order, when one of them is left
out, and when one is added.
-/
namespace BlinkBench

open Json

/-! ## The fields of each part -/

def PortSpec.fields : List (FieldOf PortSpec) :=
  [.required "id" text? id fun x p => { p with id := x },
    .required "ddr_address" uint64? ddrAddress fun x p => { p with ddrAddress := x },
    .required "dr_address" uint64? drAddress fun x p => { p with drAddress := x }]

theorem PortSpec.isRecord : IsRecord ofJson? fields where
  apart := by simp [fields, FieldOf.required, FieldOf.apart_iff]
  read v p := by
    obtain ⟨id, ddrAddress, drAddress⟩ := p
    rw [ofJson?, Format.port?]
    simp [fields, Option.bind_eq_some_iff]

theorem PortSpec.unordered : Unordered ofJson? :=
  isRecord.unordered (by simp [fields, FieldOf.required, unordered_text, unordered_uint64])

def RegisterSpec.fields : List (FieldOf RegisterSpec) :=
  [.required "name" text? name fun x r => { r with name := x },
    .required "address" uint64? address fun x r => { r with address := x },
    .defaulted "reset" uint8? 0 reset fun x r => { r with reset := x }]

theorem RegisterSpec.isRecord : IsRecord ofJson? fields where
  apart := by simp [fields, FieldOf.required, FieldOf.defaulted, FieldOf.apart_iff]
  read v r := by
    obtain ⟨name, address, reset⟩ := r
    rw [ofJson?, Format.register?]
    simp [fields, Option.bind_eq_some_iff]

theorem RegisterSpec.unordered : Unordered ofJson? :=
  isRecord.unordered (by
    simp [fields, FieldOf.required, FieldOf.defaulted, unordered_text, unordered_uint64,
      unordered_uint8])

def Board.portsField : FieldOf Board :=
  .required "ports" (list? PortSpec.ofJson?) ports fun x b => { b with ports := x }

def Board.registersField : FieldOf Board :=
  .defaulted "registers" (list? RegisterSpec.ofJson?) [] registers fun x b => { b with registers := x }

def Board.fields : List (FieldOf Board) :=
  [.required "name" text? name fun x b => { b with name := x }, portsField, registersField,
    .required "driver_port" text? driverPort fun x b => { b with driverPort := x },
    .defaulted "history_limit" uint64? defaultHistoryLimit historyLimit
      fun x b => { b with historyLimit := x }]

theorem Board.portsField_mem : portsField ∈ fields := by simp [fields]

theorem Board.registersField_mem : registersField ∈ fields := by simp [fields]

theorem Board.isRecord : IsRecord ofJson? fields where
  apart := by
    simp [fields, portsField, registersField, FieldOf.required, FieldOf.defaulted, FieldOf.apart_iff]
  read v b := by
    obtain ⟨name, ports, registers, driverPort, historyLimit⟩ := b
    rw [ofJson?, Format.board?]
    simp [fields, portsField, registersField, Option.bind_eq_some_iff]

theorem Board.unordered : Unordered ofJson? :=
  isRecord.unordered (by
    simp [fields, portsField, registersField, FieldOf.required, FieldOf.defaulted, unordered_text,
      unordered_uint64, PortSpec.unordered.list, RegisterSpec.unordered.list])

def DelaySettings.fields : List (FieldOf DelaySettings) :=
  [.defaulted "strategy" DelayStrategy.ofJson? .none strategy fun x d => { d with strategy := x },
    .defaulted "iteration_ns" uint64? 66 iterationNs fun x d => { d with iterationNs := x }]

theorem DelaySettings.isRecord : IsRecord ofJson? fields where
  apart := by simp [fields, FieldOf.defaulted, FieldOf.apart_iff]
  read v d := by
    obtain ⟨strategy, iterationNs⟩ := d
    rw [ofJson?, Format.delay?]
    simp [fields, Option.bind_eq_some_iff]

theorem DelaySettings.unordered : Unordered ofJson? :=
  isRecord.unordered (by
    simp [fields, FieldOf.defaulted, unordered_uint64, DelayStrategy.ofJson?, unordered_named])

def Limits.fields : List (FieldOf Limits) :=
  [.defaulted "max_toggles" (optional? uint64?) none maxToggles fun x l => { l with maxToggles := x },
    .defaulted "wall_time_ms" (optional? uint64?) none wallTimeMs fun x l => { l with wallTimeMs := x }]

theorem Limits.isRecord : IsRecord ofJson? fields where
  apart := by simp [fields, FieldOf.defaulted, FieldOf.apart_iff]
  read v l := by
    obtain ⟨maxToggles, wallTimeMs⟩ := l
    rw [ofJson?, Format.limits?]
    simp [fields, Option.bind_eq_some_iff]

theorem Limits.unordered : Unordered ofJson? :=
  isRecord.unordered (by simp [fields, FieldOf.defaulted, unordered_uint64.optional])

namespace Manifest

def boardField : FieldOf Manifest :=
  .required "board" Board.ofJson? board fun x m => { m with board := x }

def delayField : FieldOf Manifest :=
  .defaulted "delay" DelaySettings.ofJson? {} delay fun x m => { m with delay := x }

def limitsField : FieldOf Manifest :=
  .defaulted "limits" Limits.ofJson? {} limits fun x m => { m with limits := x }

def fields : List (FieldOf Manifest) :=
  [.required "schema_version" text? Manifest.schemaVersion fun x m => { m with schemaVersion := x },
    boardField, delayField, limitsField]

theorem boardField_mem : boardField ∈ fields := by simp [fields]

theorem delayField_mem : delayField ∈ fields := by simp [fields]

theorem limitsField_mem : limitsField ∈ fields := by simp [fields]

theorem isRecord : IsRecord ofJson? fields where
  apart := by
    simp [fields, boardField, delayField, limitsField, FieldOf.required, FieldOf.defaulted,
      FieldOf.apart_iff]
  read v m := by
    obtain ⟨schemaVersion, board, delay, limits⟩ := m
    rw [ofJson?, Format.manifest?]
    simp [fields, boardField, delayField, limitsField, Option.bind_eq_some_iff]

theorem unordered : Unordered ofJson? :=
  isRecord.unordered (by
    simp [fields, boardField, delayField, limitsField, FieldOf.required, FieldOf.defaulted,
      unordered_text, Board.unordered, DelaySettings.unordered, Limits.unordered])

end Manifest

/-! ## Sections of a manifest -/

/-- The parts of a manifest that are written as objects. -/
inductive Section where
  | manifest
  | board
  | port (i : Nat)
  | register (i : Nat)
  | delay
  | limits
deriving DecidableEq, Repr

namespace Section

/-- Where the object stands. -/
def path : Section → List Step
  | manifest => []
  | board => [.member "board"]
  | port i => [.member "board", .member "ports", .item i]
  | register i => [.member "board", .member "registers", .item i]
  | delay => [.member "delay"]
  | limits => [.member "limits"]

/-- What the members of the object may be called. -/
def names : Section → List String
  | manifest => ["schema_version", "board", "delay", "limits"]
  | board => ["name", "ports", "registers", "driver_port", "history_limit"]
  | port _ => ["id", "ddr_address", "dr_address"]
  | register _ => ["name", "address", "reset"]
  | delay => ["strategy", "iteration_ns"]
  | limits => ["max_toggles", "wall_time_ms"]

end Section

/-- What a manifest is without a member of one of its objects, if this can be left out. -/
def Manifest.without? (m : Manifest) : Section → String → Option Manifest
  | .manifest, "delay" => some { m with delay := {} }
  | .manifest, "limits" => some { m with limits := {} }
  | .board, "registers" => some { m with board := { m.board with registers := [] } }
  | .board, "history_limit" => some { m with board := { m.board with historyLimit := 64 } }
  | .register i, "reset" => some { m with board := { m.board with
      registers := m.board.registers.modify i fun r => { r with reset := 0 } } }
  | .delay, "strategy" => some { m with delay := { m.delay with strategy := .none } }
  | .delay, "iteration_ns" => some { m with delay := { m.delay with iterationNs := 66 } }
  | .limits, "max_toggles" => some { m with limits := { m.limits with maxToggles := none } }
  | .limits, "wall_time_ms" => some { m with limits := { m.limits with wallTimeMs := none } }
  | _, _ => none

namespace Section

/-- What a section is read as, and what its changes are to the manifest. -/
structure Reading (part : Section) where
  Part : Type
  read? : Decoder Part
  fields : List (FieldOf Part)
  lift : (Part → Part) → Manifest → Manifest
  isRecord : IsRecord read? fields
  within : Within Manifest.ofJson? part.path read? lift
  names : fields.map (·.name) = part.names
  without : ∀ f ∈ fields, ∀ m : Manifest,
    m.without? part f.name = (f.default?.map f.set).map (lift · m)

open Manifest in
/-- Every section is read as a record. -/
def reading : (part : Section) → Reading part
  | manifest =>
    { Part := Manifest
      read? := ofJson?
      fields := fields
      lift := id
      isRecord := isRecord
      within := .here
      names := rfl
      without := by
        simp [fields, boardField, delayField, limitsField, FieldOf.required, FieldOf.defaulted,
          without?] }
  | board =>
    { Part := Board
      read? := Board.ofJson?
      fields := Board.fields
      lift change m := { m with board := change m.board }
      isRecord := Board.isRecord
      within := .member isRecord boardField_mem .here
      names := rfl
      without := by
        simp [Board.fields, Board.portsField, Board.registersField, FieldOf.required, FieldOf.defaulted,
          without?, defaultHistoryLimit] }
  | port i =>
    { Part := PortSpec
      read? := PortSpec.ofJson?
      fields := PortSpec.fields
      lift change m := { m with board := { m.board with ports := m.board.ports.modify i change } }
      isRecord := PortSpec.isRecord
      within := .member isRecord boardField_mem
        (.member Board.isRecord Board.portsField_mem (.item .here i))
      names := rfl
      without := by simp [PortSpec.fields, FieldOf.required, without?] }
  | register i =>
    { Part := RegisterSpec
      read? := RegisterSpec.ofJson?
      fields := RegisterSpec.fields
      lift change m :=
        { m with board := { m.board with registers := m.board.registers.modify i change } }
      isRecord := RegisterSpec.isRecord
      within := .member isRecord boardField_mem
        (.member Board.isRecord Board.registersField_mem (.item .here i))
      names := rfl
      without := by simp [RegisterSpec.fields, FieldOf.required, FieldOf.defaulted, without?] }
  | delay =>
    { Part := DelaySettings
      read? := DelaySettings.ofJson?
      fields := DelaySettings.fields
      lift change m := { m with delay := change m.delay }
      isRecord := DelaySettings.isRecord
      within := .member isRecord delayField_mem .here
      names := rfl
      without := by simp [DelaySettings.fields, FieldOf.defaulted, without?] }
  | limits =>
    { Part := Limits
      read? := Limits.ofJson?
      fields := Limits.fields
      lift change m := { m with limits := change m.limits }
      isRecord := Limits.isRecord
      within := .member isRecord limitsField_mem .here
      names := rfl
      without := by simp [Limits.fields, FieldOf.defaulted, without?] }

end Section

/-! ## Members that are moved, left out or added -/

section

variable {v v' x : Json} {m : Manifest} {part : Section} {name : String}
variable {before behind : List (String × Json)}

/-- A manifest without one of its members has the default of this field, if there is one. -/
theorem Manifest.read_remove (h : ofJson? v = some m)
    (hv : Replaced (.obj (before ++ (name, x) :: behind)) (.obj (before ++ behind)) part.path v v') :
    ofJson? v' = m.without? part name := by
  let r := part.reading
  obtain ⟨a, ha, hwhole⟩ := r.within hv h
  obtain ⟨f, hf, rfl⟩ : ∃ f ∈ r.fields, f.name = name := by
    obtain ⟨-, hknown, -⟩ := r.isRecord.fields_of_obj ha
    exact List.mem_map.1 (hknown (by simp))
  rw [r.without f hf]
  refine hwhole _ ?_
  rw [r.isRecord.read_remove hf ha, Option.map_map]
  rfl

/-- A manifest with a member that is no field is none. -/
theorem Manifest.read_add (h : ofJson? v = some m) (hname : name ∉ part.names)
    (hv : Replaced (.obj (before ++ behind)) (.obj (before ++ (name, x) :: behind)) part.path v v') :
    ofJson? v' = none := by
  let r := part.reading
  obtain ⟨a, -, hwhole⟩ := r.within hv h
  exact hwhole none (r.isRecord.read_unknown (r.names ▸ hname))

end

/-- A manifest is read from its members in any order. Where one is left out, it is the same manifest with
the default of this field alone, or none if there is no default; where one is added that is no field, it
is none. -/
theorem Manifest.read_members {v : Json} {m : Manifest} (h : ofJson? v = some m) :
    (∀ v', Reordered v v' → ofJson? v' = some m) ∧
    ∀ (part : Section) (name : String) (before : List (String × Json)) (x : Json)
      (behind : List (String × Json)) (v' : Json),
      (Replaced (.obj (before ++ (name, x) :: behind)) (.obj (before ++ behind)) part.path v v' →
        ofJson? v' = m.without? part name) ∧
      (name ∉ part.names →
        Replaced (.obj (before ++ behind)) (.obj (before ++ (name, x) :: behind)) part.path v v' →
        ofJson? v' = none) :=
  ⟨fun v' hv => (unordered v v' hv).trans h,
    fun _ _ _ _ _ _ => ⟨read_remove h, read_add h⟩⟩

/-- A board with a port and a register, which have these members. -/
def latchedJson (port register : List (String × Json)) : Json :=
  .obj [("schema_version", .str "1.0"),
    ("board", .obj [("name", .str "latched"), ("ports", .arr [.obj port]),
      ("registers", .arr [.obj register]), ("driver_port", .str "b")])]

def latchedPort : List (String × Json) :=
  [("id", .str "b"), ("ddr_address", .nat 16), ("dr_address", .nat 17)]

def latchedRegister : List (String × Json) :=
  [("name", .str "latch"), ("address", .nat 32), ("reset", .nat 90)]

/-- What is read from them, for a register with this value at first. -/
def latchedManifest (reset : UInt8) : Manifest where
  schemaVersion := "1.0"
  board := {
    name := "latched"
    ports := [⟨"b", 16, 17⟩]
    registers := [⟨"latch", 32, reset⟩]
    driverPort := "b"
    historyLimit := 64 }
  delay := {}
  limits := {}

theorem Manifest.read_members_latched :
    ofJson? (latchedJson latchedPort latchedRegister) = some (latchedManifest 90) ∧
    ofJson? (latchedJson latchedPort.reverse latchedRegister) = some (latchedManifest 90) ∧
    ofJson? (latchedJson latchedPort latchedRegister.dropLast) = some (latchedManifest 0) ∧
    ofJson? (latchedJson latchedPort.tail latchedRegister) = none ∧
    ofJson? (latchedJson latchedPort (("width", .nat 8) :: latchedRegister)) = none := by
  have h : ofJson? (latchedJson latchedPort latchedRegister) = some (latchedManifest 90) := by rfl
  have hport : ∀ p p' r, Replaced (.obj p) (.obj p') (Section.path (.port 0)) (latchedJson p r)
      (latchedJson p' r) := fun p p' r =>
    .member [_] "board" [] (.member [_] "ports" [_, _] (.item [] [] .here))
  have hregister : ∀ p r r', Replaced (.obj r) (.obj r') (Section.path (.register 0)) (latchedJson p r)
      (latchedJson p r') := fun p r r' =>
    .member [_] "board" [] (.member [_, _] "registers" [_] (.item [] [] .here))
  have hreversed : Reordered (latchedJson latchedPort latchedRegister)
      (latchedJson latchedPort.reverse latchedRegister) :=
    .member [_] "board" []
      (.member [_] "ports" [_, _] (.item [] [] (.obj latchedPort.reverse_perm.symm)))
  obtain ⟨hreorder, hmembers⟩ := read_members h
  refine ⟨h, hreorder _ hreversed, ?_, ?_, ?_⟩
  · exact ((hmembers (.register 0) "reset" [_, _] _ [] _).1 (hregister _ _ _)).trans (by rfl)
  · exact ((hmembers (.port 0) "id" [] _ [_, _] _).1 (hport _ _ _)).trans (by rfl)
  · exact (hmembers (.register 0) "width" [] _ latchedRegister _).2 (by decide) (hregister _ _ _)

end BlinkBench
