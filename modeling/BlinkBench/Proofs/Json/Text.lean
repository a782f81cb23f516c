import BlinkBench.Json.Reader
import BlinkBench.Proofs.Folds
import BlinkBench.Proofs.Json.Tokens
/-!
# Texts of values

The tokens of a value build the value again, wherever the machine that takes them stands. So the text
of a value spells this value and no other one: `parse?_pretty`.
-/
namespace BlinkBench.Json

open Builder (step put close)

/-- Whether a machine waits for a value. -/
def Builder.WantsValue (b : Builder) : Prop :=
  b.expected = .value ∨ b.expected = .firstItem

/-- Whether a machine that waits for a value has it behind the tokens of the value, and goes on. -/
def Builds (v : Json) : Prop :=
  ∀ b : Builder, b.WantsValue → ∀ rest,
    (tokensOf v ++ rest).foldlM step b = rest.foldlM step (b.put v)

/-! ## One token -/

theorem foldlM_of_step {b b' : Builder} {t : Token} (h : b.step t = some b') (rest : List Token) :
    (t :: rest).foldlM step b = rest.foldlM step b' := by
  rw [List.foldlM_cons, h]
  rfl

theorem step_atom {b : Builder} (hb : b.WantsValue) (v : Json) : b.step (.atom v) = some (b.put v) := by
  rcases hb with hb | hb <;> simp [step, hb]

theorem step_quoted {b : Builder} (hb : b.WantsValue) (s : String) :
    b.step (.quoted (some s)) = some (b.put (.str s)) := by
  rcases hb with hb | hb <;> simp [step, hb]

theorem step_openArr {b : Builder} (hb : b.WantsValue) :
    b.step (.mark '[') = some { b with frames := .items [] :: b.frames, expected := .firstItem } := by
  rcases hb with hb | hb <;> simp [step, hb]

theorem step_openObj {b : Builder} (hb : b.WantsValue) : b.step (.mark '\x7b') =
    some { b with frames := .members [] none :: b.frames, expected := .firstKey } := by
  rcases hb with hb | hb <;> simp [step, hb]

/-- Where a value is put does not depend on what was expected. -/
theorem put_expected (b : Builder) (e : Expected) (v : Json) :
    put { b with expected := e } v = b.put v := by
  obtain ⟨_, _ | ⟨_ | _, _⟩, _⟩ := b <;> rfl

/-- The machine in an array behind some of its items. -/
def inArr (b : Builder) (done : List Json) (e : Expected) : Builder :=
  { b with frames := .items done :: b.frames, expected := e }

/-- The machine in an object behind some of its members. -/
def inObj (b : Builder) (done : List (String × Json)) (e : Expected) : Builder :=
  { b with
    frames := .members (done.map fun m => (some m.1, m.2)) none :: b.frames
    expected := e }

theorem put_inArr (b : Builder) (done : List Json) (e : Expected) (v : Json) :
    (inArr b done e).put v = inArr b (v :: done) .separator := rfl

theorem step_closeArr (b : Builder) (done : List Json) {e : Expected}
    (he : e = .separator ∨ e = .firstItem) :
    (inArr b done e).step (.mark ']') = some (b.put (.arr done.reverse)) := by
  rw [← put_expected b e]
  rcases he with rfl | rfl <;> rfl

theorem close_members (done : List (String × Json)) :
    close (done.map fun m => (some m.1, m.2)) = .obj done.reverse := by
  rw [close, ← List.map_reverse, mapM_map_eq_some]
  intro m
  rfl

theorem step_closeObj (b : Builder) (done : List (String × Json)) {e : Expected}
    (he : e = .separator ∨ e = .firstKey) :
    (inObj b done e).step (.mark '\x7d') = some (b.put (.obj done.reverse)) := by
  rw [← put_expected b e, ← close_members]
  rcases he with rfl | rfl <;> rfl

/-! ## Items and members -/

/-- A member is put behind those before it. -/
theorem foldlM_member {v : Json} (hv : Builds v) (b : Builder) (done : List (String × Json))
    {e : Expected} (he : e = .key ∨ e = .firstKey) (key : String) (rest : List Token) :
    (.quoted (some key) :: .mark ':' :: (tokensOf v ++ rest)).foldlM step (inObj b done e) =
      rest.foldlM step (inObj b ((key, v) :: done) .separator) := by
  let keyed : Builder := { b with
    frames := .members (done.map fun m => (some m.1, m.2)) (some key) :: b.frames
    expected := .colon }
  have hkey : (inObj b done e).step (.quoted (some key)) = some keyed := by
    rcases he with rfl | rfl <;> rfl
  have hcolon : keyed.step (.mark ':') = some { keyed with expected := .value } := rfl
  rw [foldlM_of_step hkey, foldlM_of_step hcolon, hv _ (.inl rfl)]
  rfl

theorem foldlM_moreItems {items : List Json} (hitems : ∀ v ∈ items, Builds v) (b : Builder)
    (done : List Json) (rest : List Token) :
    (moreItemTokens items ++ rest).foldlM step (inArr b done .separator) =
      rest.foldlM step (inArr b (items.reverse ++ done) .separator) := by
  induction items generalizing done with
  | nil => rfl
  | cons v items ih =>
    have hcomma : (inArr b done .separator).step (.mark ',') = some (inArr b done .value) := rfl
    rw [moreItemTokens, List.cons_append, List.append_assoc, foldlM_of_step hcomma,
      hitems v List.mem_cons_self _ (.inl rfl), put_inArr,
      ih fun w hw => hitems w (List.mem_cons_of_mem _ hw), List.reverse_cons, List.append_assoc,
      List.singleton_append]

theorem foldlM_moreMembers {members : List (String × Json)} (hmembers : ∀ m ∈ members, Builds m.2)
    (b : Builder) (done : List (String × Json)) (rest : List Token) :
    (moreMemberTokens members ++ rest).foldlM step (inObj b done .separator) =
      rest.foldlM step (inObj b (members.reverse ++ done) .separator) := by
  induction members generalizing done with
  | nil => rfl
  | cons m members ih =>
    obtain ⟨key, v⟩ := m
    have hcomma : (inObj b done .separator).step (.mark ',') = some (inObj b done .key) := rfl
    simp only [moreMemberTokens, List.cons_append, List.append_assoc]
    rw [foldlM_of_step hcomma, foldlM_member (hmembers (key, v) List.mem_cons_self) b done (.inl rfl),
      ih fun w hw => hmembers w (List.mem_cons_of_mem _ hw), List.reverse_cons, List.append_assoc,
      List.singleton_append]

/-! ## Values -/

theorem Plain.builds {v : Json} (h : Plain v) : Builds v := by
  induction h with
  | null | bool | nat =>
    intro b hb rest
    rw [tokensOf]
    exact foldlM_of_step (step_atom hb _) rest
  | str s =>
    intro b hb rest
    rw [tokensOf]
    exact foldlM_of_step (step_quoted hb s) rest
  | @arr items _ ih =>
    intro b hb rest
    cases items with
    | nil =>
      rw [tokensOf]
      exact (foldlM_of_step (step_openArr hb) _).trans
        (foldlM_of_step (step_closeArr b [] (.inr rfl)) rest)
    | cons v items =>
      have hmore := foldlM_moreItems (fun w hw => ih w (List.mem_cons_of_mem _ hw)) b [v]
        (.mark ']' :: rest)
      simp only [tokensOf, List.cons_append, List.append_assoc, List.nil_append]
      rw [foldlM_of_step (step_openArr hb), ih v List.mem_cons_self _ (.inr rfl)]
      refine hmore.trans ?_
      rw [foldlM_of_step (step_closeArr b _ (.inl rfl)), List.reverse_append, List.reverse_reverse,
        List.reverse_singleton, List.singleton_append]
  | @obj members _ ih =>
    intro b hb rest
    cases members with
    | nil =>
      rw [tokensOf]
      exact (foldlM_of_step (step_openObj hb) _).trans
        (foldlM_of_step (step_closeObj b [] (.inr rfl)) rest)
    | cons m members =>
      obtain ⟨key, v⟩ := m
      have hfirst := foldlM_member (ih (key, v) List.mem_cons_self) b [] (.inr rfl) key
      have hmore := foldlM_moreMembers (fun w hw => ih w (List.mem_cons_of_mem _ hw)) b [(key, v)]
        (.mark '\x7d' :: rest)
      simp only [tokensOf, List.cons_append, List.append_assoc, List.nil_append]
      rw [foldlM_of_step (step_openObj hb)]
      refine (hfirst _).trans (hmore.trans ?_)
      rw [foldlM_of_step (step_closeObj b _ (.inl rfl)), List.reverse_append, List.reverse_reverse,
        List.reverse_singleton, List.singleton_append]

/-- The text of a value spells this value. -/
theorem parse?_pretty {v : Json} (h : Plain v) : parse? v.pretty = some v := by
  have hbuilt := h.builds {} (.inl rfl) []
  rw [List.append_nil] at hbuilt
  rw [parse?, h.tokens?, Option.bind_eq_bind, Option.bind_some, hbuilt]
  rfl

end BlinkBench.Json
