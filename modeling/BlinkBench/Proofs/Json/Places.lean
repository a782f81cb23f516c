import BlinkBench.Proofs.Json.Fields
/-!
# Places in a value

A value is changed at a place, which is a path through its objects and lists, or the members of its
objects are put in another order. `Within` says what becomes of what is read when a part of the value
changes, `Unordered` that the order of members makes no difference, and both pass from the parts of a
value to the whole.
-/
namespace BlinkBench.Json

variable {α β : Type} {v v' w w' : Json} {whole? : Decoder β} {part? : Decoder α}

/-! ## Changes at a place -/

/-- A step from a value to one of its parts. -/
inductive Step where
  | member (name : String)
  | item (i : Nat)
deriving DecidableEq, Repr

/-- The values are the same but for what is at the end of a path, which is `w` in the first and `w'` in
the second. -/
inductive Replaced (w w' : Json) : List Step → Json → Json → Prop
  | here : Replaced w w' [] w w'
  | member {path v v'} (before : List (String × Json)) (name : String) (behind : List (String × Json)) :
      Replaced w w' path v v' →
      Replaced w w' (.member name :: path) (.obj (before ++ (name, v) :: behind))
        (.obj (before ++ (name, v') :: behind))
  | item {path v v'} (before behind : List Json) : Replaced w w' path v v' →
      Replaced w w' (.item before.length :: path) (.arr (before ++ v :: behind))
        (.arr (before ++ v' :: behind))

/-- What is read from the whole has a part that is read from the end of the path, and is changed with it:
`lift` turns a change of the part into one of the whole. -/
def Within (whole? : Decoder β) (path : List Step) (part? : Decoder α)
    (lift : (α → α) → β → β) : Prop :=
  ∀ ⦃w w' v v' b⦄, Replaced w w' path v v' → whole? v = some b →
    ∃ a, part? w = some a ∧ ∀ change : Option (α → α),
      part? w' = change.map (· a) → whole? v' = change.map (lift · b)

theorem Within.here : Within part? [] part? id := by
  intro w w' _ _ a hv ha
  cases hv
  exact ⟨a, ha, fun _ h => h⟩

theorem Within.member {read? : Decoder β} {fields : List (FieldOf β)} {f : FieldOf β} {path : List Step}
    {lift : (α → α) → f.Value → f.Value} (hr : IsRecord read? fields) (hf : f ∈ fields)
    (h : Within f.read? path part? lift) :
    Within read? (.member f.name :: path) part? fun g b => f.set (lift g (f.get b)) b := by
  intro w w' v v' b hv hb
  obtain - | ⟨before, -, behind, hv⟩ := hv
  obtain ⟨hvalue, hreplace⟩ := hr.read_replace hf hb
  obtain ⟨a, ha, hpart⟩ := h hv hvalue
  refine ⟨a, ha, fun change hchange => ?_⟩
  rw [hreplace, hpart change hchange, Option.map_map]
  rfl

/-- Among items that are all read, one that changes does so alone. -/
theorem mapM_change {before behind : List Json} {l : List β}
    (hl : (before ++ v :: behind).mapM whole? = some l) :
    ∃ b, whole? v = some b ∧ ∀ change : Option (β → β), whole? v' = change.map (· b) →
      (before ++ v' :: behind).mapM whole? = change.map (l.modify before.length) := by
  induction before generalizing l with
  | nil =>
    rw [List.nil_append, List.mapM_cons] at hl
    obtain ⟨b, hb, hl⟩ := Option.bind_eq_some_iff.1 hl
    obtain ⟨l, hbehind, ⟨⟩⟩ := Option.bind_eq_some_iff.1 hl
    refine ⟨b, hb, fun change hchange => ?_⟩
    rw [List.nil_append, List.mapM_cons, hchange, hbehind]
    cases change <;> rfl
  | cons u before ih =>
    rw [List.cons_append, List.mapM_cons] at hl
    obtain ⟨c, hc, hl⟩ := Option.bind_eq_some_iff.1 hl
    obtain ⟨l, hrest, ⟨⟩⟩ := Option.bind_eq_some_iff.1 hl
    obtain ⟨b, hb, hchanges⟩ := ih hrest
    refine ⟨b, hb, fun change hchange => ?_⟩
    rw [List.cons_append, List.mapM_cons, hc, hchanges change hchange]
    cases change <;> rfl

theorem Within.item {path : List Step} {lift : (α → α) → β → β} (h : Within whole? path part? lift)
    (i : Nat) : Within (list? whole?) (.item i :: path) part? fun g l => l.modify i (lift g) := by
  intro w w' v v' l hv hl
  obtain - | - | ⟨before, behind, hv⟩ := hv
  obtain ⟨b, hb, hitems⟩ := mapM_change hl
  obtain ⟨a, ha, hpart⟩ := h hv hb
  refine ⟨a, ha, fun change hchange => ?_⟩
  rw [list?, hitems (change.map lift) (by rw [hpart change hchange, Option.map_map]; rfl),
    Option.map_map]
  rfl

/-! ## The order of members -/

/-- The values are the same but for the order of the members of objects. -/
inductive Reordered : Json → Json → Prop
  | refl (v : Json) : Reordered v v
  | trans {v v' v'' : Json} : Reordered v v' → Reordered v' v'' → Reordered v v''
  | obj {members members' : List (String × Json)} : members.Perm members' →
      Reordered (.obj members) (.obj members')
  | member {v v' : Json} (before : List (String × Json)) (name : String)
      (behind : List (String × Json)) : Reordered v v' →
      Reordered (.obj (before ++ (name, v) :: behind)) (.obj (before ++ (name, v') :: behind))
  | item {v v' : Json} (before behind : List Json) : Reordered v v' →
      Reordered (.arr (before ++ v :: behind)) (.arr (before ++ v' :: behind))

/-- The order of members makes no difference to what is read. -/
def Unordered (read? : Decoder α) : Prop :=
  ∀ v v', Reordered v v' → read? v' = read? v

theorem Reordered.symm (h : Reordered v v') : Reordered v' v := by
  induction h with
  | refl v => exact .refl v
  | trans _ _ ih₁ ih₂ => exact ih₂.trans ih₁
  | obj h => exact .obj h.symm
  | member before name behind _ ih => exact .member before name behind ih
  | item before behind _ ih => exact .item before behind ih

/-- Null is in no order but its own. -/
theorem Reordered.eq_null (h : Reordered v v') (hv : v = .null) : v' = .null := by
  induction h with
  | refl v => exact hv
  | trans _ _ ih₁ ih₂ => exact ih₂ (ih₁ hv)
  | obj | member | item => cases hv

section

variable {read? : Decoder α}

/-- What is read comes through one step of a reordering after the other. -/
theorem unordered_of_steps
    (hobj : ∀ members members' a, members.Perm members' →
      read? (.obj members) = some a → read? (.obj members') = some a)
    (hmember : ∀ before name behind v v' a, Reordered v v' →
      read? (.obj (before ++ (name, v) :: behind)) = some a →
        read? (.obj (before ++ (name, v') :: behind)) = some a)
    (hitem : ∀ before behind v v' a, Reordered v v' →
      read? (.arr (before ++ v :: behind)) = some a →
        read? (.arr (before ++ v' :: behind)) = some a) : Unordered read? := by
  have hkept : ∀ {v v' a}, Reordered v v' → read? v = some a → read? v' = some a := by
    intro v v' a h ha
    induction h with
    | refl v => exact ha
    | trans _ _ ih₁ ih₂ => exact ih₂ (ih₁ ha)
    | obj h => exact hobj _ _ a h ha
    | member before name behind h _ => exact hmember before name behind _ _ a h ha
    | item before behind h _ => exact hitem before behind _ _ a h ha
  exact fun v v' h => Option.ext fun a => ⟨hkept h.symm, hkept h⟩

theorem unordered_text : Unordered text? :=
  unordered_of_steps nofun nofun nofun

theorem unordered_uint64 : Unordered uint64? :=
  unordered_of_steps nofun nofun nofun

theorem unordered_uint8 : Unordered uint8? :=
  unordered_of_steps nofun nofun nofun

theorem unordered_named (ofName? : String → Option α) : Unordered (named? ofName?) := by
  have hname : ∀ {members a}, named? ofName? (.obj members) = some a →
      ∃ name, members = [(name, .null)] := by
    intro members a h
    match members with
    | [(name, .null)] => exact ⟨name, rfl⟩
  refine unordered_of_steps (fun members members' a hp h => ?_)
    (fun before name behind v v' a hv h => ?_) nofun
  · obtain ⟨name, rfl⟩ := hname h
    cases List.singleton_perm.1 hp
    exact h
  · obtain ⟨name, hsingle⟩ := hname h
    obtain ⟨rfl, hrest⟩ | ⟨-, hrest⟩ := List.append_eq_singleton_iff.1 hsingle
    · cases hrest
      rwa [hv.eq_null rfl]
    · cases hrest

theorem Unordered.optional (h : Unordered read?) : Unordered (optional? read?) :=
  unordered_of_steps (fun _ _ _ hp => (congrArg (Option.map some) (h _ _ (.obj hp))).trans)
    (fun _ _ _ _ _ _ hv => (congrArg (Option.map some) (h _ _ (.member _ _ _ hv))).trans)
    fun _ _ _ _ _ hv => (congrArg (Option.map some) (h _ _ (.item _ _ hv))).trans

theorem Unordered.list (h : Unordered read?) : Unordered (list? read?) :=
  unordered_of_steps nofun nofun fun before behind v v' l hv hl => by
    rw [list?, List.mapM_append, List.mapM_cons] at hl ⊢
    rwa [h v v' hv]

variable {fields : List (FieldOf α)} {f : FieldOf α} {a : α} {fs fs' : List (String × Json)}

theorem IsRecord.read_same (h : IsRecord read? fields) (ha : read? v = some a)
    (hfs : fields? (fields.map (·.name)) .refused v = some fs)
    (hfs' : fields? (fields.map (·.name)) .refused v' = some fs')
    (hsame : ∀ f ∈ fields, f.value? (fs'.lookup f.name) = f.value? (fs.lookup f.name)) :
    read? v' = some a :=
  (h.read v' a).2 ⟨fs', hfs', fun f hf => (hsame f hf).trans (h.reads_fields ha hfs f hf)⟩

theorem FieldOf.value?_reordered (hf : Unordered f.read?) (before : List (String × Json)) (name : String)
    (behind : List (String × Json)) (hv : Reordered v v') :
    f.value? ((before ++ (name, v') :: behind).lookup f.name) =
      f.value? ((before ++ (name, v) :: behind).lookup f.name) := by
  rw [List.lookup_append, List.lookup_append, List.lookup_cons, List.lookup_cons]
  cases before.lookup f.name with
  | some u => rfl
  | none =>
    cases f.name == name with
    | true => exact hf v v' hv
    | false => rfl

/-- A record whose fields are read in any order is so itself. -/
theorem IsRecord.unordered (h : IsRecord read? fields) (hfields : ∀ f ∈ fields, Unordered f.read?) :
    Unordered read? := by
  refine unordered_of_steps (fun members members' a hp ha => ?_)
    (fun before name behind v v' a hv ha => ?_) fun before behind v v' a hv ha => ?_
  · obtain ⟨hfs, hknown, hnodup⟩ := h.fields_of_obj ha
    have hnames := hp.map (·.1)
    have hnodup' := hnames.nodup_iff.1 hnodup
    have hfs' : fields? (fields.map (·.name)) .refused (.obj members') = some members' :=
      fields?_obj_eq_some_iff.2 ⟨rfl, fun name hname => hknown (hnames.mem_iff.2 hname), hnodup'⟩
    refine h.read_same ha hfs hfs' fun f hf => congrArg f.value? (Option.ext fun u => ?_)
    rw [lookup_eq_some_iff_mem hnodup', lookup_eq_some_iff_mem hnodup, hp.mem_iff]
  · have hfs := (h.fields_of_obj ha).1
    exact h.read_same ha hfs (fields?_member hfs v') fun f hf => 
      f.value?_reordered (hfields f hf) before name behind hv
  · obtain ⟨fs, hfs, -⟩ := (h.read _ a).1 ha
    obtain ⟨fsBefore, name, fsBehind, rfl, hfs'⟩ := fields?_item hfs
    exact h.read_same ha hfs (hfs' v') fun f hf =>
      f.value?_reordered (hfields f hf) fsBefore name fsBehind hv

end

end BlinkBench.Json
