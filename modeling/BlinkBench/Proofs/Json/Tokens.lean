import BlinkBench.Json.Printer
import BlinkBench.Json.Token
import Mathlib.Data.List.TakeWhile
/-!
# Tokens of what is printed

The tokens of a printed value are known from the value alone: the lines and the spaces it is laid out
with leave no trace, a string is one token whatever its characters, and a number is the word that its
digits spell. `Plain.tokens?` says so of every value that stands for a text.
-/
namespace BlinkBench.Json

/-- Values that stand for a text of their own, and are written with plain numbers only. -/
inductive Plain : Json → Prop
  | null : Plain .null
  | bool (b : Bool) : Plain (.bool b)
  | nat (n : Nat) : Plain (.nat n)
  | str (s : String) : Plain (.str s)
  | arr {items : List Json} : (∀ v ∈ items, Plain v) → Plain (.arr items)
  | obj {members : List (String × Json)} : (∀ m ∈ members, Plain m.2) → Plain (.obj members)

mutual

/-- The tokens of a value. -/
def tokensOf : Json → List Token
  | .null | .unpaired => [.atom .null]
  | .bool b => [.atom (.bool b)]
  | .nat n => [.atom (.nat n)]
  | .numeral text => [.atom (.numeral text)]
  | .str s => [.quoted (some s)]
  | .arr [] => [.mark '[', .mark ']']
  | .arr (v :: items) => .mark '[' :: (tokensOf v ++ moreItemTokens items ++ [.mark ']'])
  | .obj [] => [.mark '\x7b', .mark '\x7d']
  | .obj ((key, v) :: members) =>
    .mark '\x7b' :: .quoted (some key) :: .mark ':' ::
      (tokensOf v ++ moreMemberTokens members ++ [.mark '\x7d'])

/-- The tokens of the items behind the first one. -/
def moreItemTokens : List Json → List Token
  | [] => []
  | v :: items => .mark ',' :: (tokensOf v ++ moreItemTokens items)

/-- The tokens of the members behind the first one. -/
def moreMemberTokens : List (String × Json) → List Token
  | [] => []
  | (key, v) :: members =>
    .mark ',' :: .quoted (some key) :: .mark ':' :: (tokensOf v ++ moreMemberTokens members)

end

/-! ## Between tokens -/

theorem scan_space {c : Char} (hc : isSpace c = true) (rest : List Char) :
    scan .gap (c :: rest) = scan .gap rest := by
  rw [scan, if_pos hc]

theorem scan_newLine (depth : Nat) (rest : List Char) :
    scan .gap (newLine depth ++ rest) = scan .gap rest := by
  have hspaces : ∀ n, scan .gap (List.replicate n ' ' ++ rest) = scan .gap rest := by
    intro n
    induction n with
    | zero => rfl
    | succ n ih => rw [List.replicate_succ, List.cons_append, scan_space (by decide), ih]
  rw [newLine, List.cons_append, scan_space (by decide), hspaces]

theorem scan_mark {c : Char} (hc : isMark c = true) (rest : List Char) :
    scan .gap (c :: rest) = (scan .gap rest).map (.mark c :: ·) := by
  have hspace : isSpace c = false := by
    simp only [isMark, Bool.or_eq_true, beq_iff_eq] at hc
    rcases hc with ((((rfl | rfl) | rfl) | rfl) | rfl) | rfl <;> decide
  rw [scan, hspace, if_neg Bool.false_ne_true, if_pos hc]
  cases scan .gap rest <;> rfl

/-! ## Words -/

/-- Whether a word that ends here is not longer in what follows. -/
def EndsWord (rest : List Char) : Prop :=
  ∀ c ∈ rest.head?, isSpace c = true ∨ isMark c = true

theorem endsWord_newLine (depth : Nat) (rest : List Char) : EndsWord (newLine depth ++ rest) := by
  intro c hc
  obtain rfl : c = '\n' := by simpa [newLine, eq_comm] using hc
  exact .inl (by decide)

theorem endsWord_mark {c : Char} (hc : isMark c = true) (rest : List Char) : EndsWord (c :: rest) := by
  intro c' hc'
  obtain rfl : c = c' := by simpa using hc'
  exact .inr hc

/-- Whether a character can stand in a word. -/
def InWord (c : Char) : Prop :=
  isSpace c = false ∧ isMark c = false ∧ (c == '"') = false

instance : DecidablePred InWord := fun _ => inferInstanceAs (Decidable (_ ∧ _))

theorem inWord_of_all {word : List Char} (h : word.all (fun c => decide (InWord c)) = true) :
    ∀ c ∈ word, InWord c := by
  simpa using h

theorem scan_word_end {rest : List Char} (hrest : EndsWord rest) (read : List Char) :
    scan (.word read) rest =
      (atom? read.reverse).bind fun v => (scan .gap rest).map (.atom v :: ·) := by
  cases rest with
  | nil =>
    simp only [scan]
    cases atom? read.reverse <;> rfl
  | cons c rest =>
    cases hspace : isSpace c with
    | true =>
      rw [scan_space hspace]
      simp only [scan, hspace, if_true]
      cases atom? read.reverse with
      | none => rfl
      | some v => cases scan .gap rest <;> rfl
    | false =>
      have hmark : isMark c = true := (hrest c rfl).resolve_left (by simp [hspace])
      rw [scan_mark hmark]
      simp only [scan, hspace, hmark, if_true, Bool.false_eq_true, if_false]
      cases atom? read.reverse with
      | none => rfl
      | some v => cases scan .gap rest <;> rfl

theorem scan_word_append {rest : List Char} (hrest : EndsWord rest) {word : List Char}
    (hword : ∀ c ∈ word, InWord c) (read : List Char) : scan (.word read) (word ++ rest) =
      (atom? (read.reverse ++ word)).bind fun v => (scan .gap rest).map (.atom v :: ·) := by
  induction word generalizing read with
  | nil => rw [List.nil_append, List.append_nil, scan_word_end hrest]
  | cons c word ih =>
    obtain ⟨hspace, hmark, hquote⟩ := hword c List.mem_cons_self
    have hstep : scan (.word read) (c :: (word ++ rest)) = scan (.word (c :: read)) (word ++ rest) := by
      simp only [scan, hspace, hmark, hquote, Bool.false_eq_true, if_false]
    rw [List.cons_append, hstep, ih fun c' hc' => hword c' (List.mem_cons_of_mem _ hc'),
      List.reverse_cons, List.append_assoc, List.singleton_append]

theorem scan_atom {rest : List Char} (hrest : EndsWord rest) {word : List Char} (hne : word ≠ [])
    (hword : ∀ c ∈ word, InWord c) {v : Json} (hv : atom? word = some v) :
    scan .gap (word ++ rest) = (scan .gap rest).map (.atom v :: ·) := by
  obtain ⟨c, word, rfl⟩ := List.exists_cons_of_ne_nil hne
  obtain ⟨hspace, hmark, hquote⟩ := hword c List.mem_cons_self
  have hstep : scan .gap (c :: (word ++ rest)) = scan (.word [c]) (word ++ rest) := by
    simp only [scan, hspace, hmark, hquote, Bool.false_eq_true, if_false]
  rw [List.cons_append, hstep,
    scan_word_append hrest fun c' hc' => hword c' (List.mem_cons_of_mem _ hc'),
    List.reverse_singleton, List.singleton_append, hv, Option.bind_some]

/-! ## Numbers -/

theorem inWord_of_isDigit {c : Char} (hc : c.isDigit = true) : InWord c := by
  have hne : ∀ c' : Char, c'.isDigit = false → c ≠ c' := by
    rintro c' hc' rfl
    rw [hc] at hc'
    cases hc'
  refine ⟨?_, ?_, ?_⟩
  · simp [isSpace, hne]
  · simp [isMark, hne]
  · simp [hne]

theorem digitChar_ne_zero : ∀ n < 10, n ≠ 0 → Nat.digitChar n ≠ '0' := by
  decide

theorem head?_toDigits {n : Nat} (hn : n ≠ 0) : (Nat.toDigits 10 n).head? ≠ some '0' := by
  induction n using Nat.strongRecOn with
  | ind n ih =>
    by_cases hlt : n < 10
    · rw [Nat.toDigits_of_lt_base hlt, List.head?_cons]
      exact fun h => digitChar_ne_zero n hlt hn (Option.some.inj h)
    · have hdiv := ih (n / 10) (by omega) (by omega)
      rw [Nat.toDigits_of_base_le (by decide) (by omega), List.head?_append]
      cases hhead : (Nat.toDigits 10 (n / 10)).head? with
      | none => exact absurd (List.head?_eq_none_iff.1 hhead) Nat.toDigits_ne_nil
      | some c => rwa [hhead] at hdiv

theorem decimal_toDigits (n : Nat) : decimal (Nat.toDigits 10 n) = n := by
  have hdecimal : decimal (Nat.toDigits 10 n) = Nat.ofDigitChars 10 (Nat.toDigits 10 n) 0 := by
    simp only [decimal, Nat.ofDigitChars, Nat.mul_comm]
  rw [hdecimal, Nat.ofDigitChars_toDigits (by decide) (by decide)]

theorem isNumber_digits {c : Char} {digits : List Char} (hc : c.isDigit = true)
    (hdigits : ∀ c ∈ digits, c.isDigit = true) (hzero : c = '0' → digits = []) :
    isNumber (c :: digits) = true := by
  have hsign : c ≠ '-' := by
    rintro rfl
    cases hc
  have hinteger : afterInteger? (c :: digits) = some [] := by
    by_cases h0 : c = '0'
    · obtain rfl := hzero h0
      rw [h0, afterInteger?]
    · have hrest : digits.dropWhile Char.isDigit = [] := List.dropWhile_eq_nil_iff.2 hdigits
      rw [afterInteger?, afterDigits?, if_pos hc, hrest]
      simpa using h0
  unfold isNumber
  split
  · simp_all
  · show (afterInteger? (c :: digits) >>= _ >>= _ == _) = true
    rw [hinteger]
    rfl

theorem atom?_toDigits (n : Nat) : atom? (Nat.toDigits 10 n) = some (.nat n) := by
  have hdigits : ∀ c ∈ Nat.toDigits 10 n, c.isDigit = true := fun c hc =>
    Nat.isDigit_of_mem_toDigits (by decide) (by decide) hc
  obtain ⟨c, rest, hsplit⟩ := List.exists_cons_of_ne_nil (Nat.toDigits_ne_nil (n := n) (b := 10))
  have hc : c.isDigit = true := hdigits c (by simp [hsplit])
  have hzero : c = '0' → rest = [] := by
    rintro rfl
    by_cases hn : n = 0
    · rw [hn] at hsplit
      exact (List.cons.inj hsplit).2.symm
    · exact absurd (by rw [hsplit]; rfl) (head?_toDigits hn)
  have hnumber : isNumber (Nat.toDigits 10 n) = true := by
    rw [hsplit]
    exact isNumber_digits hc (fun c' hc' => hdigits c' (by simp [hsplit, hc'])) hzero
  have hword : ∀ word : List Char, word.head?.any Char.isDigit = false →
      (Nat.toDigits 10 n == word) = false := by
    intro word hfirst
    refine beq_false_of_ne fun h => ?_
    rw [← h, hsplit] at hfirst
    simp [hc] at hfirst
  rw [atom?, hword _ rfl, hword _ rfl, hword _ rfl, hnumber, List.all_eq_true.2 hdigits,
    decimal_toDigits]
  rfl

/-! ## Strings -/

theorem scan_raw (chars : List Char) {c : Char} (hquote : c ≠ '"') (hslash : c ≠ '\\')
    (hc : ¬c.toNat < 0x20) (rest : List Char) :
    scan (.quote { chars }) (c :: rest) = scan (.quote { chars := c :: chars }) rest := by
  simp only [scan, beq_eq_false_iff_ne.2 hquote, beq_eq_false_iff_ne.2 hslash, Bool.false_eq_true,
    if_false, if_neg hc]
  rfl

theorem scan_escaped (chars : List Char) {e c : Char} (hc : escape? e = some c) (rest : List Char) :
    scan (.quote { chars }) ('\\' :: e :: rest) = scan (.quote { chars := c :: chars }) rest := by
  have hu : (e == 'u') = false := by
    refine beq_false_of_ne ?_
    rintro rfl
    cases hc
  have hslash : scan (.quote { chars }) ('\\' :: e :: rest) = scan (.escape { chars }) (e :: rest) := by
    rw [scan]
    rfl
  rw [hslash]
  simp only [scan, hu, hc, Bool.false_eq_true, if_false, Option.bind_eq_bind, Option.bind_some]
  rfl

theorem hexDigit?_hexChar : ∀ n < 16, hexDigit? (hexChar n) = some n := by
  decide

theorem scan_digit {q : Quote} {owed value n : Nat} (hn : n < 16) (howed : 1 < owed)
    (rest : List Char) :
    scan (.code q owed value) (hexChar n :: rest) = scan (.code q (owed - 1) (value * 16 + n)) rest := by
  simp only [scan, hexDigit?_hexChar n hn, Option.bind_eq_bind, Option.bind_some,
    if_neg (Nat.not_le.2 howed)]

theorem scan_last_digit {q : Quote} {value n : Nat} (hn : n < 16) (rest : List Char) :
    scan (.code q 1 value) (hexChar n :: rest) = scan (.quote (q.addUnit (value * 16 + n))) rest := by
  simp only [scan, hexDigit?_hexChar n hn, Option.bind_eq_bind, Option.bind_some, Nat.le_refl,
    if_true]

theorem addUnit_of_lt (chars : List Char) {unit : Nat} (h : unit < 0xD800) :
    Quote.addUnit { chars } unit = { chars := Char.ofNat unit :: chars } := by
  have hfirst : (decide (0xD800 ≤ unit) && decide (unit < 0xDC00)) = false := by simp; omega
  have hsecond : (decide (0xDC00 ≤ unit) && decide (unit < 0xE000)) = false := by simp; omega
  simp only [Quote.addUnit, hfirst, hsecond, Bool.false_eq_true, if_false]

/-- A code of four digits, of which the first two are zeros, is the character that it is made of. -/
theorem scan_control (chars : List Char) {c : Char} (hc : c.toNat < 0x20) (rest : List Char) :
    scan (.quote { chars })
        ('\\' :: 'u' :: '0' :: '0' :: hexChar (c.toNat / 16) :: hexChar (c.toNat % 16) :: rest) =
      scan (.quote { chars := c :: chars }) rest := by
  have hcode : scan (.quote { chars })
        ('\\' :: 'u' :: '0' :: '0' :: hexChar (c.toNat / 16) :: hexChar (c.toNat % 16) :: rest) =
      scan (.code { chars } 4 0)
        (hexChar 0 :: hexChar 0 :: hexChar (c.toNat / 16) :: hexChar (c.toNat % 16) :: rest) := by
    rw [scan]
    show scan (.escape { chars }) _ = _
    rw [scan]
    rfl
  rw [hcode, scan_digit (by decide) (by decide), scan_digit (by decide) (by decide),
    scan_digit (by omega) (by decide), scan_last_digit (by omega), addUnit_of_lt _ (by omega)]
  have hvalue : (((0 * 16 + 0) * 16 + 0) * 16 + c.toNat / 16) * 16 + c.toNat % 16 = c.toNat := by
    omega
  rw [hvalue, Char.ofNat_toNat]

theorem scan_escapeChar (chars : List Char) (c : Char) (rest : List Char) :
    scan (.quote { chars }) (escapeChar c ++ rest) = scan (.quote { chars := c :: chars }) rest := by
  by_cases hquote : c = '"'
  · exact hquote ▸ scan_escaped chars rfl rest
  by_cases hslash : c = '\\'
  · exact hslash ▸ scan_escaped chars rfl rest
  by_cases hback : c = '\x08'
  · exact hback ▸ scan_escaped chars rfl rest
  by_cases hfeed : c = '\x0c'
  · exact hfeed ▸ scan_escaped chars rfl rest
  by_cases hline : c = '\n'
  · exact hline ▸ scan_escaped chars rfl rest
  by_cases hreturn : c = '\r'
  · exact hreturn ▸ scan_escaped chars rfl rest
  by_cases htab : c = '\t'
  · exact htab ▸ scan_escaped chars rfl rest
  simp only [escapeChar, beq_iff_eq, hquote, hslash, hback, hfeed, hline, hreturn, htab, if_false]
  split
  · rename_i hcontrol
    exact scan_control chars hcontrol rest
  · rename_i hcontrol
    exact scan_raw chars hquote hslash hcontrol rest

theorem scan_quote (s : String) (rest : List Char) :
    scan .gap (quote s ++ rest) = (scan .gap rest).map (.quoted (some s) :: ·) := by
  have hchars : ∀ (l chars : List Char), scan (.quote { chars }) (l.flatMap escapeChar ++ '"' :: rest) =
      (scan .gap rest).map (.quoted (some (String.ofList (chars.reverse ++ l))) :: ·) := by
    intro l
    induction l with
    | nil =>
      intro chars
      rw [List.flatMap_nil, List.nil_append, List.append_nil, scan]
      cases scan .gap rest <;> rfl
    | cons c l ih =>
      intro chars
      rw [List.flatMap_cons, List.append_assoc, scan_escapeChar, ih, List.reverse_cons,
        List.append_assoc, List.singleton_append]
  have hopen : scan .gap (quote s ++ rest) =
      scan (.quote {}) (s.toList.flatMap escapeChar ++ '"' :: rest) := by
    rw [quote, List.append_assoc, List.cons_append, scan]
    rfl
  rw [hopen, hchars, List.reverse_nil, List.nil_append, String.ofList_toList]

/-! ## Values -/

/-- Whether the tokens of a value are read where it is written, at any depth. -/
def Scans (v : Json) : Prop :=
  ∀ depth rest, EndsWord rest →
    scan .gap (lines depth v ++ rest) = (scan .gap rest).map (tokensOf v ++ ·)

theorem scan_key (key : String) (rest : List Char) :
    scan .gap (quote key ++ ':' :: ' ' :: rest) =
      (scan .gap rest).map (.quoted (some key) :: .mark ':' :: ·) := by
  rw [scan_quote, scan_mark (by decide), scan_space (by decide), Option.map_map]
  rfl

theorem endsWord_moreItems (depth : Nat) (items : List Json) {rest : List Char}
    (hrest : EndsWord rest) : EndsWord (moreItems depth items ++ rest) := by
  cases items with
  | nil => rwa [moreItems]
  | cons v items =>
    rw [moreItems]
    exact endsWord_mark (by decide) _

theorem endsWord_moreMembers (depth : Nat) (members : List (String × Json)) {rest : List Char}
    (hrest : EndsWord rest) : EndsWord (moreMembers depth members ++ rest) := by
  cases members with
  | nil => rwa [moreMembers]
  | cons m members =>
    rw [moreMembers]
    exact endsWord_mark (by decide) _

theorem scan_moreItems {items : List Json} (hitems : ∀ v ∈ items, Scans v) (depth : Nat)
    {rest : List Char} (hrest : EndsWord rest) : scan .gap (moreItems depth items ++ rest) =
      (scan .gap rest).map (moreItemTokens items ++ ·) := by
  induction items with
  | nil => simp [moreItems, moreItemTokens]
  | cons v items ih =>
    have hmore := ih fun w hw => hitems w (List.mem_cons_of_mem _ hw)
    have hv := hitems v List.mem_cons_self depth _ (endsWord_moreItems depth items hrest)
    simp only [moreItems, moreItemTokens, List.cons_append, List.append_assoc]
    rw [scan_mark (by decide), scan_newLine, hv, hmore, Option.map_map, Option.map_map]
    rfl

theorem scan_moreMembers {members : List (String × Json)} (hmembers : ∀ m ∈ members, Scans m.2)
    (depth : Nat) {rest : List Char} (hrest : EndsWord rest) :
    scan .gap (moreMembers depth members ++ rest) =
      (scan .gap rest).map (moreMemberTokens members ++ ·) := by
  induction members with
  | nil => simp [moreMembers, moreMemberTokens]
  | cons m members ih =>
    obtain ⟨key, v⟩ := m
    have hmore := ih fun w hw => hmembers w (List.mem_cons_of_mem _ hw)
    have hv := hmembers (key, v) List.mem_cons_self depth _ (endsWord_moreMembers depth members hrest)
    simp only [moreMembers, moreMemberTokens, List.cons_append, List.append_assoc, List.nil_append]
    rw [scan_mark (by decide), scan_newLine, scan_key, hv, hmore, Option.map_map, Option.map_map,
      Option.map_map]
    rfl

theorem Plain.scans {v : Json} (h : Plain v) : Scans v := by
  -- The induction is on what makes a value plain; what is written behind a value is arbitrary, so
  -- that the items and members behind it can be.
  induction h with
  | null =>
    intro depth rest hrest
    rw [lines, tokensOf]
    exact scan_atom hrest (by decide) (inWord_of_all (by decide)) rfl
  | bool b =>
    intro depth rest hrest
    cases b <;> rw [lines, tokensOf] <;>
      exact scan_atom hrest (by decide) (inWord_of_all (by decide)) rfl
  | nat n =>
    intro depth rest hrest
    rw [lines, tokensOf, Nat.toList_repr]
    refine scan_atom hrest Nat.toDigits_ne_nil (fun c hc => ?_) (atom?_toDigits n)
    exact inWord_of_isDigit (Nat.isDigit_of_mem_toDigits (by decide) (by decide) hc)
  | str s =>
    intro depth rest _
    rw [lines, tokensOf, scan_quote]
    rfl
  | @arr items _ ih =>
    intro depth rest hrest
    cases items with
    | nil =>
      simp only [lines, tokensOf, List.cons_append, List.nil_append]
      rw [scan_mark (by decide), scan_mark (by decide), Option.map_map]
      rfl
    | cons v items =>
      have hclose := endsWord_newLine depth (']' :: rest)
      have hv := ih v List.mem_cons_self (depth + 1) _ (endsWord_moreItems (depth + 1) items hclose)
      have hmore := scan_moreItems (fun w hw => ih w (List.mem_cons_of_mem _ hw)) (depth + 1) hclose
      simp only [lines, tokensOf, List.cons_append, List.append_assoc, List.nil_append]
      rw [scan_mark (by decide), scan_newLine, hv, hmore, scan_newLine, scan_mark (by decide),
        Option.map_map, Option.map_map, Option.map_map]
      rfl
  | @obj members _ ih =>
    intro depth rest hrest
    cases members with
    | nil =>
      simp only [lines, tokensOf, List.cons_append, List.nil_append]
      rw [scan_mark (by decide), scan_mark (by decide), Option.map_map]
      rfl
    | cons m members =>
      obtain ⟨key, v⟩ := m
      have hclose := endsWord_newLine depth ('\x7d' :: rest)
      have hv := ih (key, v) List.mem_cons_self (depth + 1) _
        (endsWord_moreMembers (depth + 1) members hclose)
      have hmore := scan_moreMembers (fun w hw => ih w (List.mem_cons_of_mem _ hw)) (depth + 1) hclose
      simp only [lines, tokensOf, List.cons_append, List.append_assoc, List.nil_append]
      rw [scan_mark (by decide), scan_newLine, scan_key, hv, hmore, scan_newLine,
        scan_mark (by decide), Option.map_map, Option.map_map, Option.map_map, Option.map_map]
      rfl

/-- The tokens of the text of a value are those of the value. -/
theorem Plain.tokens? {v : Json} (h : Plain v) : tokens? v.pretty = some (tokensOf v) := by
  have hall := h.scans 0 [] (by simp [EndsWord])
  rw [List.append_nil] at hall
  rw [Json.tokens?, pretty, String.toList_ofList, hall, scan]
  simp

end BlinkBench.Json
