import BlinkBench.Proofs.Json.Records
import Mathlib.Data.List.Pairwise
/-!
# Records by their fields

A record is read from the members of an object that are its fields, and an object with other members
is refused. Two values with the same fields are read alike, and where the values differ in one field,
so does what is read.
-/
namespace BlinkBench.Json

variable {members before behind fs fs' : List (String × Json)} {known : List String} {v v' : Json}
variable {name : String}

/-! ## Members -/

/-- An object has fields if the names of its members are known and none is there twice, and its fields
are its members then. -/
theorem fields?_obj_eq_some_iff : fields? known .refused (.obj members) = some fs ↔
    fs = members ∧ members.map (·.1) ⊆ known ∧ (members.map (·.1)).Nodup := by
  have hsubset : members.map (·.1) ⊆ known ↔ ∀ x ∈ members, x.1 ∈ known := List.forall_mem_map
  rw [fields?, hsubset]
  by_cases hknown : ∀ x ∈ members, x.1 ∈ known
  · have hall : members.filter (known.contains ·.1) = members :=
      List.filter_eq_self.2 fun x hx => List.contains_iff_mem.2 (hknown x hx)
    have htwice : (members.map (·.1)).eraseDups.length < (members.map (·.1)).length ↔
        ¬ (members.map (·.1)).Nodup := by
      rw [← length_eraseDups_eq_iff]
      exact (length_eraseDups_le _).lt_iff_ne
    simp only [hall, htwice, Nat.lt_irrefl, decide_false, Bool.and_false, Bool.false_eq_true, if_false,
      ite_not, Option.ite_none_right_eq_some, Option.some.injEq]
    constructor
    · rintro ⟨hnodup, rfl⟩
      exact ⟨rfl, hknown, hnodup⟩
    · rintro ⟨rfl, -, hnodup⟩
      exact ⟨hnodup, rfl⟩
  · have hless : (members.filter (known.contains ·.1)).length < members.length := by
      simpa [List.length_filter_lt_length_iff_exists] using hknown
    simp only [hless, decide_true, beq_self_eq_true, Bool.and_true, if_true]
    constructor
    · intro h
      cases h
    · rintro ⟨-, hall, -⟩
      exact absurd hall hknown

/-- Another value for a member is another value for its field. -/
theorem fields?_member (h : fields? known .refused (.obj (before ++ (name, v) :: behind)) = some fs)
    (v' : Json) : fields? known .refused (.obj (before ++ (name, v') :: behind)) =
      some (before ++ (name, v') :: behind) := by
  obtain ⟨-, hmembers⟩ := fields?_obj_eq_some_iff.1 h
  rw [List.map_append, List.map_cons] at hmembers
  rw [fields?_obj_eq_some_iff, List.map_append, List.map_cons]
  exact ⟨rfl, hmembers⟩

/-- Another value for an item is another value for the field whose turn it is. -/
theorem fields?_item {unknown : Unknown} {items behind : List Json}
    (h : fields? known unknown (.arr (items ++ v :: behind)) = some fs) :
    ∃ fsBefore name fsBehind, fs = fsBefore ++ (name, v) :: fsBehind ∧
      ∀ v', fields? known unknown (.arr (items ++ v' :: behind)) =
        some (fsBefore ++ (name, v') :: fsBehind) := by
  rw [fields?] at h
  split at h
  next hle =>
    rw [List.length_append, List.length_cons] at hle
    have hi : items.length < known.length := by omega
    have hzip : ∀ u, known.zip (items ++ u :: behind) = (known.take items.length).zip items ++
        (known[items.length], u) :: (known.drop (items.length + 1)).zip behind := by
      intro u
      conv_lhs => rw [← List.take_append_drop items.length known, List.drop_eq_getElem_cons hi]
      rw [List.zip_append (List.length_take_of_le hi.le), List.zip_cons_cons]
    refine ⟨_, _, _, (Option.some.inj h).symm.trans (hzip v), fun v' => ?_⟩
    rw [fields?, List.length_append, List.length_cons, if_pos hle, hzip]
  next => cases h

/-- Where no name is there twice, each member is found under its name. -/
theorem lookup_eq_some_iff_mem (h : (members.map (·.1)).Nodup) :
    members.lookup name = some v ↔ (name, v) ∈ members := by
  rw [List.lookup_eq_some_iff]
  constructor
  · rintro ⟨before, behind, rfl, -⟩
    exact List.mem_append_right _ List.mem_cons_self
  · intro hv
    obtain ⟨before, behind, rfl⟩ := List.append_of_mem hv
    rw [List.map_append, List.map_cons, List.nodup_middle, List.nodup_cons, ← List.map_append] at h
    refine ⟨before, behind, rfl, fun x hx => bne_iff_ne.2 fun hname => h.1 ?_⟩
    exact List.mem_map.2 ⟨x, List.mem_append_left _ hx, hname.symm⟩

theorem lookup_eq_none_of_not_mem (h : name ∉ members.map (·.1)) : members.lookup name = none :=
  List.lookup_eq_none_iff.2 fun _ hx => bne_iff_ne.2 fun hname => h (hname ▸ List.mem_map_of_mem hx)

/-- Under other names than its own, a member is not found. -/
theorem lookup_middle_of_ne {other : String} (h : other ≠ name) :
    (before ++ (name, v) :: behind).lookup other = (before ++ behind).lookup other := by
  rw [List.lookup_append, List.lookup_cons, beq_eq_false_iff_ne.2 h, List.lookup_append]

/-! ## Fields -/

/-- A field of a record: how it is read, what it is where it may be left out, and where it is kept. -/
structure FieldOf (α : Type) where
  name : String
  Value : Type
  read? : Decoder Value
  default? : Option Value
  get : α → Value
  set : Value → α → α
  get_set : ∀ x a, get (set x a) = x := by intros; rfl

variable {α : Type}

/-- A field that has to be there. -/
def FieldOf.required {β : Type} (name : String) (read? : Decoder β) (get : α → β) (set : β → α → α)
    (get_set : ∀ x a, get (set x a) = x := by intros; rfl) : FieldOf α :=
  ⟨name, β, read?, none, get, set, get_set⟩

/-- A field with a default. -/
def FieldOf.defaulted {β : Type} (name : String) (read? : Decoder β) (default : β) (get : α → β)
    (set : β → α → α) (get_set : ∀ x a, get (set x a) = x := by intros; rfl) : FieldOf α :=
  ⟨name, β, read?, some default, get, set, get_set⟩

/-- What a field is read as, from its member if there is one. -/
def FieldOf.value? (f : FieldOf α) : Option Json → Option f.Value
  | some v => f.read? v
  | none => f.default?

/-- A field of a record is read among other fields, or has its default. -/
def FieldOf.Read (f : FieldOf α) (fs : List (String × Json)) (a : α) : Prop :=
  f.value? (fs.lookup f.name) = some (f.get a)

section

variable {β : Type} {readField? : Decoder β} {get : α → β} {set : β → α → α}
variable {get_set : ∀ x a, get (set x a) = x} {a : α}

@[simp] theorem FieldOf.name_required : (required name readField? get set get_set).name = name :=
  rfl

@[simp] theorem FieldOf.name_defaulted (default : β) :
    (defaulted name readField? default get set get_set).name = name :=
  rfl

@[simp] theorem FieldOf.read_required : (required name readField? get set get_set).Read fs a ↔
    field? fs name readField? = some (get a) := by
  rw [Read, name_required, field?]
  cases fs.lookup name <;> rfl

@[simp] theorem FieldOf.read_defaulted (default : β) :
    (defaulted name readField? default get set get_set).Read fs a ↔
      fieldOr? fs name readField? default = some (get a) := by
  rw [Read, name_defaulted, fieldOr?]
  cases fs.lookup name <;> rfl

end

/-- Two fields are told apart by their names, and a change of the one is none of the other. -/
@[mk_iff]
structure FieldOf.Apart (f g : FieldOf α) : Prop where
  name : f.name ≠ g.name
  left : ∀ x a, f.get (g.set x a) = f.get a
  right : ∀ x a, g.get (f.set x a) = g.get a

/-- The records that are read are those whose fields are read, and they have no other parts. -/
structure IsRecord (read? : Decoder α) (fields : List (FieldOf α)) : Prop where
  apart : fields.Pairwise FieldOf.Apart
  read : ∀ v a, read? v = some a ↔
    ∃ fs, fields? (fields.map (·.name)) .refused v = some fs ∧
      ∀ f ∈ fields, f.Read fs a

namespace IsRecord

variable {read? : Decoder α} {fields : List (FieldOf α)} {f g : FieldOf α} {a : α}

theorem apart_of_ne (h : IsRecord read? fields) (hf : f ∈ fields) (hg : g ∈ fields) (hne : f ≠ g) :
    f.Apart g := by
  have hsymm : Std.Symm (@FieldOf.Apart α) := ⟨fun _ _ h => ⟨h.name.symm, h.right, h.left⟩⟩
  exact h.apart.forall hf hg hne

theorem reads_fields (h : IsRecord read? fields) (ha : read? v = some a)
    (hfs : fields? (fields.map (·.name)) .refused v = some fs) :
    ∀ g ∈ fields, g.Read fs a := by
  obtain ⟨fs', hfs', hvalues⟩ := (h.read v a).1 ha
  cases hfs.symm.trans hfs'
  exact hvalues

/-- Where the values differ in one field, so does what is read. -/
theorem read_change (h : IsRecord read? fields) (hf : f ∈ fields) (ha : read? v = some a)
    (hfs : fields? (fields.map (·.name)) .refused v = some fs)
    (hfs' : fields? (fields.map (·.name)) .refused v' = some fs')
    (hsame : ∀ name, name ≠ f.name → fs'.lookup name = fs.lookup name) :
    read? v' = (f.value? (fs'.lookup f.name)).map (f.set · a) := by
  have hvalues := h.reads_fields ha hfs
  cases hvalue : f.value? (fs'.lookup f.name) with
  | none =>
    -- Whatever were read would have read the field.
    rw [Option.map_none, Option.eq_none_iff_forall_ne_some]
    intro a' ha'
    rw [(h.reads_fields ha' hfs' f hf : f.value? _ = _)] at hvalue
    cases hvalue
  | some x =>
    rw [Option.map_some, h.read]
    refine ⟨fs', hfs', fun g hg => ?_⟩
    by_cases hne : g = f
    · rw [hne, FieldOf.Read, hvalue, f.get_set]
    · have hapart := h.apart_of_ne hg hf hne
      rw [FieldOf.Read, hsame g.name hapart.name, hvalues g hg, hapart.left]

/-! ## Objects -/

/-- An object that is read has known members, each once. -/
theorem fields_of_obj (h : IsRecord read? fields) (ha : read? (.obj members) = some a) :
    fields? (fields.map (·.name)) .refused (.obj members) = some members ∧
      members.map (·.1) ⊆ fields.map (·.name) ∧ (members.map (·.1)).Nodup := by
  obtain ⟨fs, hfs, -⟩ := (h.read _ a).1 ha
  obtain ⟨rfl, hmembers⟩ := fields?_obj_eq_some_iff.1 hfs
  exact ⟨hfs, hmembers⟩

/-- A member that is no field is refused. -/
theorem read_unknown (h : IsRecord read? fields) (hname : name ∉ fields.map (·.name)) :
    read? (.obj (before ++ (name, v) :: behind)) = none := by
  rw [Option.eq_none_iff_forall_ne_some]
  intro a ha
  obtain ⟨-, hknown, -⟩ := h.fields_of_obj ha
  exact hname (hknown (by simp))

/-- A member is read as its field, and another value in its place changes this field. -/
theorem read_replace (h : IsRecord read? fields) (hf : f ∈ fields)
    (ha : read? (.obj (before ++ (f.name, v) :: behind)) = some a) :
    f.read? v = some (f.get a) ∧
      ∀ v', read? (.obj (before ++ (f.name, v') :: behind)) = (f.read? v').map (f.set · a) := by
  obtain ⟨hfs, hmembers⟩ := h.fields_of_obj ha
  rw [List.map_append, List.map_cons] at hmembers
  have hfound : ∀ w, (before ++ (f.name, w) :: behind).lookup f.name = some w := fun w =>
    (lookup_eq_some_iff_mem (by simpa using hmembers.2)).2 List.mem_append_cons_self
  have hvalue := h.reads_fields ha hfs f hf
  rw [FieldOf.Read, hfound] at hvalue
  refine ⟨hvalue, fun v' => ?_⟩
  rw [h.read_change hf ha hfs (fields?_member hfs v') fun name hname => ?_, hfound, FieldOf.value?]
  rw [lookup_middle_of_ne hname, lookup_middle_of_ne hname]

/-- Where a member is left out, its field changes into the default, or is missed if it has none. -/
theorem read_remove (h : IsRecord read? fields) (hf : f ∈ fields)
    (ha : read? (.obj (before ++ (f.name, v) :: behind)) = some a) :
    read? (.obj (before ++ behind)) = f.default?.map (f.set · a) := by
  obtain ⟨hfs, hknown, hnodup⟩ := h.fields_of_obj ha
  rw [List.map_append, List.map_cons] at hknown hnodup
  rw [List.nodup_middle, ← List.map_append] at hnodup
  obtain ⟨hout, hnodup⟩ := List.nodup_cons.1 hnodup
  have hfs' : fields? (fields.map (·.name)) .refused (.obj (before ++ behind)) =
      some (before ++ behind) := by
    rw [fields?_obj_eq_some_iff]
    refine ⟨rfl, fun name hname => hknown ?_, hnodup⟩
    exact List.perm_middle.mem_iff.2 (List.mem_cons_of_mem _ (List.map_append ▸ hname))
  rw [h.read_change hf ha hfs hfs' fun name hname => (lookup_middle_of_ne hname).symm,
    lookup_eq_none_of_not_mem hout, FieldOf.value?]

end IsRecord

end BlinkBench.Json
