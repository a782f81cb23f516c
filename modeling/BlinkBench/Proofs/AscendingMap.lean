import BlinkBench.AscendingMap
/-!
# What is found in a map

A map is known by what is found under its keys: an insertion changes that for one key only, and of
the entries a map is made of the last one with a key counts.
-/
namespace BlinkBench.AscendingMap

variable {κ α : Type} [Ord κ] [BEq κ] [LawfulBEq κ]

omit [LawfulBEq κ] in
@[simp] theorem find?_empty (key : κ) : (empty : AscendingMap κ α).find? key = none := rfl

theorem contains_eq (m : AscendingMap κ α) (key : κ) : m.contains key = (m.find? key).isSome := by
  unfold contains find?
  induction m.entries with
  | nil => rfl
  | cons e l ih =>
    rw [List.any_cons, ih, List.lookup_cons, Bool.beq_comm]
    cases key == e.1 <;> simp

omit [Ord κ] in
theorem lookup_map {β : Type} (f : κ → α → β) (l : List (κ × α)) (key : κ) :
    (l.map fun e => (e.1, f e.1 e.2)).lookup key = (l.lookup key).map (f key) := by
  induction l with
  | nil => rfl
  | cons e l ih =>
    rw [List.map_cons, List.lookup_cons, ih, List.lookup_cons]
    cases h : key == e.1 with
    | true => rw [eq_of_beq h]; rfl
    | false => rfl

theorem find?_mapValues {β : Type} (m : AscendingMap κ α) (f : κ → α → β) (key : κ) :
    (m.mapValues f).find? key = (m.find? key).map (f key) :=
  lookup_map f m.entries key

variable [Std.LawfulEqOrd κ]

theorem lookup_place (key : κ) (value : α) (l : List (κ × α)) (key' : κ) :
    (place key value l).lookup key' = if key' == key then some value else l.lookup key' := by
  induction l with
  | nil =>
    rw [place, List.lookup_cons]
    cases key' == key <;> rfl
  | cons e l ih =>
    unfold place
    split
    · rw [List.lookup_cons]
      cases key' == key <;> rfl
    · rename_i heq
      obtain rfl := Std.LawfulEqOrd.eq_of_compare heq
      rw [List.lookup_cons, List.lookup_cons]
      cases key' == e.1 <;> rfl
    · rename_i hgt
      rw [List.lookup_cons, ih, List.lookup_cons]
      cases h : key' == e.1 with
      | false => rfl
      | true =>
        -- The entry is behind another key, so what was found under its own key is still found.
        have hne : (key' == key) = false := by
          refine beq_false_of_ne fun hkey => ?_
          rw [← eq_of_beq h, hkey] at hgt
          simp at hgt
        rw [hne]
        rfl

variable [Std.TransOrd κ]

theorem find?_insert (m : AscendingMap κ α) (key : κ) (value : α) (key' : κ) :
    (m.insert key value).find? key' = if key' == key then some value else m.find? key' :=
  lookup_place key value m.entries key'

/-- Of the entries that a map is made of, the last one with a key counts. -/
theorem find?_ofList (l : List (κ × α)) (key : κ) : (ofList l).find? key = l.reverse.lookup key := by
  have hfold : ∀ m : AscendingMap κ α, (l.foldl (fun m e => m.insert e.1 e.2) m).find? key =
      (l.reverse.lookup key).or (m.find? key) := by
    induction l with
    | nil =>
      intro m
      rfl
    | cons e l ih =>
      intro m
      rw [List.foldl_cons, ih, List.reverse_cons, List.lookup_append, find?_insert, Option.or_assoc,
        List.lookup_cons]
      cases key == e.1 <;> rfl
  rw [ofList, hfold, find?_empty, Option.or_none]

omit [Std.TransOrd κ] in
/-- An entry is what is found under its key. -/
theorem mem_entries {m : AscendingMap κ α} {e : κ × α} :
    e ∈ m.entries ↔ m.find? e.1 = some e.2 := by
  rw [find?, List.lookup_eq_some_iff]
  constructor
  · intro he
    obtain ⟨before, behind, hsplit⟩ := List.append_of_mem he
    refine ⟨before, behind, hsplit, fun x hx => ?_⟩
    -- The keys ascend, so none before the entry is its own.
    have hlt := (List.pairwise_append.1 (hsplit ▸ m.ascending)).2.2 x hx e List.mem_cons_self
    rw [bne_iff_ne]
    intro heq
    rw [heq] at hlt
    simp at hlt
  · rintro ⟨before, behind, hsplit, -⟩
    rw [hsplit]
    simp

omit [BEq κ] [LawfulBEq κ] [Std.TransOrd κ] in
theorem nodup_entries (m : AscendingMap κ α) : m.entries.Nodup := by
  refine m.ascending.imp fun {e e'} hlt heq => ?_
  rw [heq] at hlt
  simp at hlt

omit [BEq κ] [LawfulBEq κ] [Std.LawfulEqOrd κ] [Std.TransOrd κ] in
/-- The last entry of some kind has the greatest key of all of this kind. -/
theorem of_find?_reverse_entries {m : AscendingMap κ α} {kind : κ × α → Bool} {e : κ × α}
    (h : m.entries.reverse.find? kind = some e) : e ∈ m.entries ∧ kind e = true ∧
      ∀ e' ∈ m.entries, kind e' = true → e' = e ∨ compare e'.1 e.1 = .lt := by
  obtain ⟨hkind, behind, before, hsplit, hnone⟩ := List.find?_eq_some_iff_append.1 h
  have hentries : m.entries = before.reverse ++ e :: behind.reverse := by
    rw [← List.reverse_reverse m.entries, hsplit]
    simp
  have hascending := m.ascending
  rw [hentries] at hascending ⊢
  refine ⟨by simp, hkind, fun e' he' hkind' => ?_⟩
  rcases List.mem_append.1 he' with he' | he'
  · exact .inr ((List.pairwise_append.1 hascending).2.2 e' he' e List.mem_cons_self)
  · rcases List.mem_cons.1 he' with rfl | he'
    · exact .inl rfl
    · have := hnone e' (List.mem_reverse.1 he')
      rw [hkind'] at this
      cases this

/-! ## Maps of their own entries -/

omit [BEq κ] [LawfulBEq κ] [Std.LawfulEqOrd κ] [Std.TransOrd κ] in
theorem eq_of_entries {m m' : AscendingMap κ α} (h : m.entries = m'.entries) : m = m' := by
  cases m
  cases m'
  cases h
  rfl

omit [BEq κ] [LawfulBEq κ] [Std.LawfulEqOrd κ] in
/-- An entry whose key comes behind all others is placed at the end. -/
theorem place_of_last {key : κ} {value : α} {l : List (κ × α)}
    (h : ∀ e ∈ l, compare e.1 key = .lt) : place key value l = l ++ [(key, value)] := by
  induction l with
  | nil => rfl
  | cons e l ih =>
    have hgt : compare key e.1 = .gt := Std.OrientedCmp.gt_iff_lt.2 (h e List.mem_cons_self)
    rw [place, hgt, ih fun e' he' => h e' (List.mem_cons_of_mem _ he'), List.cons_append]

omit [BEq κ] [LawfulBEq κ] in
theorem ofList_entries (m : AscendingMap κ α) : ofList m.entries = m := by
  have hfold : ∀ (l : List (κ × α)) (m' : AscendingMap κ α),
      (m'.entries ++ l).Pairwise (fun a b => compare a.1 b.1 = .lt) →
      (l.foldl (fun m e => m.insert e.1 e.2) m').entries = m'.entries ++ l := by
    intro l
    induction l with
    | nil => simp
    | cons e l ih =>
      intro m' hascending
      have hlast : (m'.insert e.1 e.2).entries = m'.entries ++ [e] :=
        place_of_last fun e' he' =>
          (List.pairwise_append.1 hascending).2.2 e' he' e List.mem_cons_self
      rw [List.foldl_cons, ih, hlast, List.append_assoc, List.singleton_append]
      rwa [hlast, List.append_assoc, List.singleton_append]
  exact eq_of_entries (hfold m.entries empty m.ascending)

end BlinkBench.AscendingMap
