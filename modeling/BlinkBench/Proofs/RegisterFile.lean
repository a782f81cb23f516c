import BlinkBench.Proofs.AscendingMap
import BlinkBench.RegisterFile
/-!
# Plain registers behind calls

A register file is a map from addresses to registers, and each call changes it at one address at most.
So behind all calls since the beginning it is known what is found at each address, and in which order
the registers are listed: `reflects_calls` says it in terms of the calls and their answers alone.
-/
namespace BlinkBench.RegisterFile

variable {f f' : RegisterFile} {a : UInt64} {v : UInt8}

/-! ## Single calls -/

theorem find?_map (f : RegisterFile) (address : UInt64) (name : String) (reset : UInt8)
    (a : UInt64) : (f.map address name reset).cells.find? a =
      if a == address then some ⟨name, reset⟩ else f.cells.find? a :=
  AscendingMap.find?_insert ..

theorem isMapped_eq (f : RegisterFile) (a : UInt64) : f.isMapped a = (f.cells.find? a).isSome :=
  AscendingMap.contains_eq f.cells a

theorem isMapped_map (f : RegisterFile) (address : UInt64) (name : String) (reset : UInt8)
    (a : UInt64) : (f.map address name reset).isMapped a = (a == address || f.isMapped a) := by
  rw [isMapped_eq, isMapped_eq, find?_map]
  cases a == address <;> rfl

theorem isSome_read? (f : RegisterFile) (a : UInt64) : (f.read? a).isSome = f.isMapped a := by
  rw [read?, isMapped_eq, Option.isSome_map]

theorem exists_write? (h : f.isMapped a = true) (v : UInt8) : ∃ f', f.write? a v = some f' := by
  rw [write?, if_pos h]
  exact ⟨_, rfl⟩

theorem write?_of_not_isMapped (h : f.isMapped a = false) (v : UInt8) : f.write? a v = none := by
  rw [write?, h]
  rfl

theorem isSome_write? (f : RegisterFile) (a : UInt64) (v : UInt8) :
    (f.write? a v).isSome = f.isMapped a := by
  unfold write?
  split <;> simp_all

/-- A write changes the value of one register, and no name. -/
theorem find?_of_write? (h : f.write? a v = some f') (b : UInt64) : f'.cells.find? b =
    (f.cells.find? b).map fun r => if b == a then { r with value := v } else r := by
  unfold write? at h
  split at h
  · cases h
    exact AscendingMap.find?_mapValues f.cells _ b
  · cases h

theorem isMapped_of_write? (h : f.write? a v = some f') (b : UInt64) :
    f'.isMapped b = f.isMapped b := by
  rw [isMapped_eq, isMapped_eq, find?_of_write? h, Option.isSome_map]

theorem read?_of_write? (h : f.write? a v = some f') : f'.read? a = some v := by
  have hmapped : (f.cells.find? a).isSome := by
    rw [← isMapped_eq, ← isSome_write? f a v, h]
    rfl
  obtain ⟨r, hr⟩ := Option.isSome_iff_exists.1 hmapped
  rw [read?, find?_of_write? h, hr]
  simp

theorem read?_of_write?_of_ne {b : UInt64} (h : f.write? a v = some f') (hne : b ≠ a) :
    f'.read? b = f.read? b := by
  rw [read?, find?_of_write? h, beq_false_of_ne hne, read?]
  simp

/-- No name is lost or moves to another address. -/
theorem names_of_write? (h : f.write? a v = some f') :
    (f'.toList.map fun e => (e.1, e.2.name)) = f.toList.map fun e => (e.1, e.2.name) := by
  unfold write? at h
  split at h
  · cases h
    unfold toList AscendingMap.mapValues
    rw [List.map_map]
    refine List.map_congr_left fun e _ => ?_
    show (e.1, (if e.1 == a then { e.2 with value := v } else e.2).name) = _
    split <;> rfl
  · cases h

theorem name_of_write? (h : f.write? a v = some f') (b : UInt64) :
    (f'.cells.find? b).map (·.name) = (f.cells.find? b).map (·.name) := by
  rw [find?_of_write? h, Option.map_map]
  congr 1
  funext r
  show (if b == a then { r with value := v } else r).name = r.name
  split <;> rfl

/-! ## Calls and their answers -/

/-- What is done with a register file. -/
inductive Call where
  | map (address : UInt64) (name : String) (reset : UInt8)
  | write (address : UInt64) (value : UInt8)
  | read (address : UInt64)
  | isMapped (address : UInt64)
deriving DecidableEq, Repr

/-- What a call is answered. -/
inductive Answer where
  | done
  /-- Whether there was a register to write to. -/
  | written (accepted : Bool)
  | value (found : Option UInt8)
  | mapped (found : Bool)
deriving DecidableEq, Repr

/-- The registers behind a call, and its answer. -/
def call (f : RegisterFile) : Call → RegisterFile × Answer
  | .map address name reset => (f.map address name reset, .done)
  | .write address value =>
    ((f.write? address value).getD f, .written (f.write? address value).isSome)
  | .read address => (f, .value (f.read? address))
  | .isMapped address => (f, .mapped (f.isMapped address))

/-- The registers behind all calls since the beginning. -/
def behind (calls : List Call) : RegisterFile :=
  calls.foldl (fun f c => (f.call c).1) empty

/-- Calls with their answers. -/
def record (f : RegisterFile) : List Call → List (Call × Answer)
  | [] => []
  | c :: calls => (c, (f.call c).2) :: record (f.call c).1 calls

/-- The name that a call gives to the register at an address, if it does. -/
def Call.name? (a : UInt64) : Call → Option String
  | .map address name _ => if a == address then some name else none
  | _ => none

/-- The value that an answered call leaves at an address, if it does. -/
def stored? (a : UInt64) : Call × Answer → Option UInt8
  | (.map address _ reset, _) => if a == address then some reset else none
  | (.write address value, .written true) => if a == address then some value else none
  | _ => none

/-- The names that some calls give to the register at an address. -/
def named (a : UInt64) (calls : List Call) : List String :=
  calls.filterMap (Call.name? a)

/-- The values that some answered calls leave at an address. -/
def stored (a : UInt64) (calls : List (Call × Answer)) : List UInt8 :=
  calls.filterMap (stored? a)

theorem map_fst_record (f : RegisterFile) (calls : List Call) :
    (f.record calls).map (·.1) = calls := by
  induction calls generalizing f with
  | nil => rfl
  | cons c calls ih => rw [record, List.map_cons, ih]

theorem named_concat (a : UInt64) (calls : List Call) (c : Call) :
    (named a (calls ++ [c])).getLast? = (c.name? a).or (named a calls).getLast? := by
  rw [named, List.filterMap_append, List.getLast?_append]
  cases h : c.name? a <;> simp [named, h]

theorem stored_concat (a : UInt64) (calls : List (Call × Answer)) (c : Call × Answer) :
    (stored a (calls ++ [c])).getLast? = (stored? a c).or (stored a calls).getLast? := by
  rw [stored, List.filterMap_append, List.getLast?_append]
  cases h : stored? a c <;> simp [stored, h]

/-! ## What calls leave -/

theorem name_call (f : RegisterFile) (c : Call) (a : UInt64) :
    ((f.call c).1.cells.find? a).map (·.name) =
      (c.name? a).or ((f.cells.find? a).map (·.name)) := by
  cases c with
  | map address name reset =>
    simp only [call, find?_map, Call.name?]
    split <;> rfl
  | write address value =>
    cases hwrite : f.write? address value with
    | none => simp [call, hwrite, Call.name?]
    | some f' => simp [call, hwrite, Call.name?, name_of_write? hwrite]
  | read | isMapped => rfl

theorem read?_call (f : RegisterFile) (c : Call) (a : UInt64) :
    (f.call c).1.read? a = (stored? a (c, (f.call c).2)).or (f.read? a) := by
  cases c with
  | map address name reset =>
    simp only [call, read?, find?_map, stored?]
    split <;> rfl
  | write address value =>
    cases hwrite : f.write? address value with
    | none => simp [call, hwrite, stored?]
    | some f' =>
      by_cases ha : a = address
      · subst ha
        simp [call, hwrite, stored?, read?_of_write? hwrite]
      · simp [call, hwrite, stored?, ha, read?_of_write?_of_ne hwrite ha]
  | read | isMapped => rfl

/-- What is found at each address is the last name and the last value that came there. -/
structure Remembers (f : RegisterFile) (calls : List (Call × Answer)) : Prop where
  name : ∀ a, (f.cells.find? a).map (·.name) = (named a (calls.map (·.1))).getLast?
  value : ∀ a, f.read? a = (stored a calls).getLast?

variable {calls : List (Call × Answer)}

theorem Remembers.call (h : f.Remembers calls) (c : Call) :
    (f.call c).1.Remembers (calls ++ [(c, (f.call c).2)]) where
  name a := by rw [name_call, h.name, List.map_append, List.map_singleton, named_concat]
  value a := by rw [read?_call, h.value, stored_concat]

theorem Remembers.callAll (h : f.Remembers calls) (more : List Call) :
    (more.foldl (fun f c => (f.call c).1) f).Remembers (calls ++ f.record more) := by
  induction more generalizing f calls with
  | nil => simpa [record] using h
  | cons c more ih => simpa [record] using ih (h.call c)

theorem remembers_empty : empty.Remembers [] where
  name _ := rfl
  value _ := rfl

theorem remembers_behind (calls : List Call) : (behind calls).Remembers (empty.record calls) :=
  remembers_empty.callAll calls

/-! ## Main theorem -/

/-- What comes of a write to an address: all is as before where nothing is mapped there, and otherwise
the register there has a new value. -/
structure Writes (f : RegisterFile) (a : UInt64) (v : UInt8) (after : RegisterFile × Answer) :
    Prop where
  answer : after.2 = .written (f.isMapped a)
  refused : f.isMapped a = false → after.1 = f
  accepted : f.isMapped a = true → ∀ b, after.1.read? b = if b = a then some v else f.read? b
  names : (after.1.toList.map fun e => (e.1, e.2.name)) = f.toList.map fun e => (e.1, e.2.name)

/-- A register file as it is seen behind all calls since the beginning. -/
structure Reflects (f : RegisterFile) (calls : List Call) : Prop where
  mapped (a : UInt64) : f.isMapped a = true ↔ ∃ name reset, Call.map a name reset ∈ calls
  unmapped (a : UInt64) : f.read? a = none ↔ f.isMapped a = false
  read (a : UInt64) : f.read? a = (stored a (empty.record calls)).getLast?
  write (a : UInt64) (v : UInt8) : f.Writes a v (f.call (.write a v))
  /-- The addresses ascend, so none is listed twice. -/
  ascending : f.toList.Pairwise fun e e' => e.1 < e'.1
  addresses (a : UInt64) : a ∈ f.toList.map (·.1) ↔ f.isMapped a = true
  listed (a : UInt64) (r : Register) :
    (a, r) ∈ f.toList ↔ (named a calls).getLast? = some r.name ∧ f.read? a = some r.value

theorem writes_call (f : RegisterFile) (a : UInt64) (v : UInt8) :
    f.Writes a v (f.call (.write a v)) := by
  refine ⟨?_, ?_, ?_, ?_⟩
  · rw [call, isSome_write?]
  · intro hfree
    rw [call, write?_of_not_isMapped hfree]
    rfl
  · intro hmapped b
    obtain ⟨f', hwrite⟩ := exists_write? hmapped v
    simp only [call, hwrite, Option.getD_some]
    split
    · rename_i hb
      rw [hb, read?_of_write? hwrite]
    · rename_i hb
      exact read?_of_write?_of_ne hwrite hb
  · cases hwrite : f.write? a v with
    | none => simp [call, hwrite]
    | some f' => simp [call, hwrite, names_of_write? hwrite]

theorem mem_toList {r : Register} : (a, r) ∈ f.toList ↔
    (f.cells.find? a).map (·.name) = some r.name ∧ f.read? a = some r.value := by
  unfold toList
  rw [AscendingMap.mem_entries, read?]
  cases f.cells.find? a with
  | none => simp
  | some r' =>
    obtain ⟨name, value⟩ := r
    obtain ⟨name', value'⟩ := r'
    simp

theorem mem_addresses : a ∈ f.toList.map (·.1) ↔ f.isMapped a = true := by
  rw [isMapped_eq, Option.isSome_iff_exists, List.mem_map]
  constructor
  · rintro ⟨⟨b, r⟩, hmem, rfl⟩
    exact ⟨r, AscendingMap.mem_entries.1 hmem⟩
  · rintro ⟨r, hr⟩
    exact ⟨(a, r), AscendingMap.mem_entries.2 hr, rfl⟩

theorem Call.name?_eq_some {c : Call} {name : String} :
    c.name? a = some name ↔ ∃ reset, c = .map a name reset := by
  cases c with
  | map address name' reset =>
    simp only [Call.name?, beq_iff_eq]
    split <;> simp_all [eq_comm]
  | write | read | isMapped => simp [Call.name?]

theorem isSome_named {calls : List Call} :
    (named a calls).getLast?.isSome = true ↔ ∃ name reset, Call.map a name reset ∈ calls := by
  rw [List.getLast?_isSome]
  constructor
  · intro hsome
    obtain ⟨name, hname⟩ := List.exists_mem_of_ne_nil _ hsome
    obtain ⟨c, hc, hcname⟩ := List.mem_filterMap.1 hname
    obtain ⟨reset, rfl⟩ := Call.name?_eq_some.1 hcname
    exact ⟨name, reset, hc⟩
  · rintro ⟨name, reset, hc⟩
    exact List.ne_nil_of_mem (List.mem_filterMap.2 ⟨_, hc, Call.name?_eq_some.2 ⟨reset, rfl⟩⟩)

/-- Behind any calls a register file is a memory of them: registers are where some were mapped, and
each has the value that was left there last, by a mapping or by a write that was accepted. -/
theorem reflects_calls (calls : List Call) : (behind calls).Reflects calls := by
  have h := remembers_behind calls
  have hname := h.name
  rw [map_fst_record] at hname
  refine ⟨?_, ?_, h.value, writes_call _, ?_, fun a => mem_addresses, ?_⟩
  · intro a
    rw [isMapped_eq, ← isSome_named, ← hname, Option.isSome_map]
  · intro a
    rw [← isSome_read?, Option.isSome_eq_false_iff, Option.isNone_iff_eq_none]
  · exact (behind calls).cells.ascending.imp Std.compare_eq_lt.1
  · intro a r
    rw [mem_toList, hname]

/-- A register is mapped anew under another name, and a write comes before there is a register. -/
example : (behind [.write 5 1, .map 5 "led" 2, .map 3 "lamp" 4, .write 5 6, .map 3 "fan" 7]).toList =
    [(3, ⟨"fan", 7⟩), (5, ⟨"led", 6⟩)] := by
  decide

end BlinkBench.RegisterFile
