import BlinkBench.Json.Decode
import BlinkBench.Proofs.Folds
import BlinkBench.Proofs.Json.Tokens
import Mathlib.Data.List.Nodup
/-!
# Values that are read back

What is written for a number, a list, something that may be missing or a name is read back as what it
was written for. A record that is written with all its fields is read with exactly these fields,
whether or not other members are refused.
-/
namespace BlinkBench.Json

/-- Whatever one writes, the other reads back, and it stands for a text. -/
structure Inverts {α : Type} (write : α → Json) (read? : Decoder α) : Prop where
  read : ∀ a, read? (write a) = some a
  plain : ∀ a, Plain (write a)

theorem natBelow?_of_lt {bound n : Nat} (h : n < bound) : natBelow? bound (.nat n) = some n := by
  rw [natBelow?, if_pos h]

theorem inverts_str : Inverts Json.str text? where
  read _ := rfl
  plain := .str

theorem inverts_uint64 : Inverts ofUInt64 uint64? where
  read n := by
    rw [ofUInt64, uint64?, natBelow?_of_lt n.toNat_lt, Option.map_some, UInt64.ofNat_toNat]
  plain _ := .nat _

theorem inverts_uint8 : Inverts ofUInt8 uint8? where
  read n := by
    rw [ofUInt8, uint8?, natBelow?_of_lt n.toNat_lt, Option.map_some, UInt8.ofNat_toNat]
  plain _ := .nat _

theorem inverts_name {α : Type} {name : α → String} {ofName? : String → Option α}
    (h : ∀ a, ofName? (name a) = some a) : Inverts (fun a => .str (name a)) (named? ofName?) where
  read := h
  plain _ := .str _

section

variable {α : Type} {write : α → Json} {read? : Decoder α}

/-- What may be missing is told from null, as long as null is written for nothing else. -/
theorem Inverts.optional (h : Inverts write read?) (hnull : ∀ a, write a ≠ .null) :
    Inverts (ofOption write) (optional? read?) where
  read
    | none => rfl
    | some a => by
      rw [ofOption, optional?, h.read, Option.map_some]
      exact hnull a
  plain
    | none => .null
    | some a => h.plain a

theorem Inverts.list (h : Inverts write read?) : Inverts (ofList write) (list? read?) where
  read l := by
    rw [ofList, list?]
    exact mapM_map_eq_some h.read l
  plain l := .arr fun v hv => by
    obtain ⟨a, -, rfl⟩ := List.mem_map.1 hv
    exact h.plain a

end

/-! ## Records -/

theorem length_eraseDups_le {α : Type} [BEq α] [LawfulBEq α] (l : List α) :
    l.eraseDups.length ≤ l.length := by
  induction hn : l.length using Nat.strong_induction_on generalizing l with
  | _ n ih =>
    cases l with
    | nil => simp
    | cons a l =>
      subst hn
      have hfilter := List.length_filter_le (fun b => !b == a) l
      have hrest := ih _ (Nat.lt_succ_of_le hfilter) _ rfl
      rw [List.eraseDups_cons, List.length_cons, List.length_cons]
      exact Nat.succ_le_succ (hrest.trans hfilter)

/-- A list loses nothing with its repetitions just where it has none. -/
theorem length_eraseDups_eq_iff {α : Type} [BEq α] [LawfulBEq α] {l : List α} :
    l.eraseDups.length = l.length ↔ l.Nodup := by
  induction l with
  | nil => simp
  | cons a l ih =>
    have hfilter := List.length_filter_le (fun b => !b == a) l
    have hrest := length_eraseDups_le (l.filter fun b => !b == a)
    have hkeep : a ∉ l ↔ l.filter (fun b => !b == a) = l := by
      simp only [List.filter_eq_self, Bool.not_eq_true', beq_eq_false_iff_ne]
      exact ⟨fun ha b hb => ne_of_mem_of_not_mem hb ha, fun h ha => h a ha rfl⟩
    rw [List.eraseDups_cons, List.length_cons, List.length_cons, List.nodup_cons, Nat.succ_inj, hkeep,
      ← ih]
    constructor
    · intro h
      have hsame : l.filter (fun b => !b == a) = l :=
        List.filter_sublist.eq_of_length (hfilter.antisymm (h ▸ hrest))
      rw [hsame] at h
      exact ⟨hsame, h⟩
    · rintro ⟨hsame, h⟩
      rw [hsame, h]

/-- A record with all its fields, each once, has these fields. -/
theorem fields?_obj {known : List String} {members : List (String × Json)} (unknown : Unknown)
    (hnames : members.map (·.1) = known) (hknown : known.Nodup) :
    fields? known unknown (.obj members) = some members := by
  have hall : members.filter (known.contains ·.1) = members := by
    refine List.filter_eq_self.2 fun m hm => ?_
    rw [List.contains_iff_mem, ← hnames]
    exact List.mem_map_of_mem hm
  simp only [fields?, hall, Nat.lt_irrefl, decide_false, Bool.and_false, Bool.false_eq_true, if_false,
    hnames, length_eraseDups_eq_iff.2 hknown]

end BlinkBench.Json
