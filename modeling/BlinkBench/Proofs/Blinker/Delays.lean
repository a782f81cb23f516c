import BlinkBench.Proofs.Blinker.Alternation
import BlinkBench.Proofs.Blinker.Books
import BlinkBench.Proofs.Blinker.Parts
/-!
# The rounds of all delays

The rounds that the delay of a blinker was made to wait for, those that the blinker says it has asked
for, those that its observers were told of and those in its reports agree. `delays_accounted` says so
of every list of operations on a fresh blinker.
-/
namespace BlinkBench

open Environment
open BlinkBench.Action (rounds toldRounds)

/-! ## Operations -/

/-- Those who come with an operation. -/
def Operation.joins : Operation → List Nat
  | .observe observer => [observer]
  | _ => []

theorem Operation.not_mem_joins {o : Nat} {ops : List Operation} (h : .observe o ∉ ops) :
    o ∉ ops.flatMap Operation.joins := by
  intro hmem
  obtain ⟨op, hop, ho⟩ := List.mem_flatMap.1 hmem
  cases op with
  | observe observer =>
    rw [List.mem_singleton.1 ho] at h
    exact h hop
  | _ => cases ho

namespace Setting

variable {ω : Type} [Environment ω] {s s' : Setting ω} {fuel : Nat}

theorem look_books (s : Setting ω) (k : Nat) : ∃ actions,
    (s.look k).world = performAll s.world actions ∧
    Books s.blinker (s.look k).blinker 0 [] actions := by
  refine look_actions (P := fun k actions => Books s.blinker (s.look k).blinker 0 [] actions) s
    s.blinker.start_books ?_ k
  intro k actions hbooks
  rw [look_succ]
  exact hbooks.append (s.look k).blinker.step_books

theorem stop_books (s : Setting ω) (k : Nat) (reason : StopReason) : ∃ actions,
    (s.stop k reason).1.world = performAll s.world actions ∧
    Books s.blinker (s.stop k reason).1.blinker 0 [] actions := by
  obtain ⟨actions, hactions, hbooks⟩ := s.look_books k
  exact ⟨_, stop_world hactions reason,
    hbooks.append ((s.look k).blinker.finish_books (UInt64.ofNat k) reason)⟩

/-- What an operation adds to the books. -/
theorem Does.books {op : Operation} {reply : Reply} {k : Nat} (h : s.Does op s' reply k) :
    ∃ actions, s'.world = Environment.performAll s.world actions ∧
      Books s.blinker s'.blinker ([op].count .pause) op.joins actions := by
  cases h with
  | observe observer => exact ⟨[], rfl, .observe s.blinker observer⟩
  | setDirection => exact ⟨_, rfl, s.blinker.setDirection_books⟩
  | pause => exact ⟨_, rfl, s.blinker.pause_books⟩
  | step => exact ⟨_, rfl, s.blinker.step_books⟩
  | run | runBounded => exact s.stop_books k _

theorem operateAll?_books {ops : List Operation} {replies : List Reply}
    (hops : s.operateAll? fuel ops = some (s', replies)) :
    ∃ actions, s'.world = performAll s.world actions ∧
      Books s.blinker s'.blinker (ops.count .pause) (ops.flatMap Operation.joins) actions := by
  induction ops generalizing s replies with
  | nil =>
    cases hops
    exact ⟨[], rfl, .nil _⟩
  | cons op ops ih =>
    obtain ⟨mid, reply, rest, hop, hops, -⟩ := operateAll?_cons.1 hops
    obtain ⟨k, hdoes⟩ := does_of_operate? hop
    obtain ⟨l, hl, hbooks⟩ := hdoes.books
    obtain ⟨l', hl', hbooks'⟩ := ih hops
    refine ⟨l ++ l', by rw [hl', hl, performAll_append], ?_⟩
    have hcount : (op :: ops).count .pause = [op].count .pause + ops.count .pause := by
      rw [← List.count_append, List.singleton_append]
    rw [hcount, List.flatMap_cons]
    exact hbooks.append hbooks'

/-- All that has a place in the books is on the record. -/
theorem recorded_books {b : Blinker} {world : ω} {ops : List Operation} {s : Setting (Recorded ω)}
    {replies : List Reply}
    (hops : (⟨b, ⟨world, []⟩⟩ : Setting (Recorded ω)).operateAll? fuel ops = some (s, replies)) :
    Books b s.blinker (ops.count .pause) (ops.flatMap Operation.joins) s.world.actions := by
  obtain ⟨actions, hactions, hbooks⟩ := operateAll?_books hops
  have heq : s.world.actions = actions := by
    rw [hactions, Recorded.chronicle.performAll, List.nil_append]
  exact heq ▸ hbooks

theorem rounds_le {ops : List Operation} {s s' : Setting (Recorded ω)} {replies : List Reply}
    (hops : s.operateAll? fuel ops = some (s', replies)) :
    tally rounds s.world.actions ≤ tally rounds s'.world.actions := by
  obtain ⟨actions, hactions⟩ := operateAll?_performAll hops
  rw [hactions, Recorded.chronicle.performAll, tally_append]
  exact Nat.le_add_right ..

/-! ## Reports -/

theorem look_delayIterations (s : Setting ω) (k : Nat) : (s.look k).blinker.delayIterations =
    s.blinker.delayIterations + UInt64.ofNat k * delayIterations := by
  induction k with
  | zero => simp
  | succ k ih =>
    rw [look_succ, step_blinker, Blinker.step_fst]
    simp only [ih]
    rw [UInt64.ofNat_add, UInt64.add_mul, UInt64.add_assoc]
    rfl

/-- A report says by how much the rounds that were asked for have grown. -/
theorem Does.report {op : Operation} {r : Report} {k : Nat} (h : s.Does op s' (.report r) k) :
    s'.blinker.delayIterations = s.blinker.delayIterations + r.delayIterations := by
  cases h with
  | run | runBounded => exact s.look_delayIterations k

end Setting

/-! ## Delays that count -/

/-- A delay that counts has counted the rounds that were waited for. -/
theorem Delay.foldl_act {count : UInt64 → Delay} (hcount : ∀ q n, (count q).wait n = count (q + n))
    (q : UInt64) (actions : List Action) :
    actions.foldl Delay.act (count q) = count (q + UInt64.ofNat (tally rounds actions)) := by
  induction actions generalizing q with
  | nil => simp
  | cons a actions ih =>
    rw [List.foldl_cons, tally_cons]
    cases a with
    | wait iterations =>
      rw [Delay.act, hcount, ih]
      simp [UInt64.ofNat_add, UInt64.add_assoc]
    | write | tell | note => simpa [Delay.act] using ih q

/-! ## Main theorem -/

/-- What the delay of a blinker was made to wait for, what the blinker says of it and what those who
listened from the start were told. -/
structure Accounted (observers : List Nat) (ops : List Operation) (b : Blinker)
    (actions : List Action) : Prop where
  paced : Paced (ops.count .pause) (calls actions)
  waited : tally rounds actions = 7600000 * (b.toggles.toNat + ops.count .pause)
  asked : b.delayIterations.toNat = tally rounds actions
  told : ∀ o, .observe o ∉ ops →
    tally (toldRounds o) actions = observers.count o * tally rounds actions

theorem Setting.accounted {ω : Type} [Environment ω] {observers : List Nat} {world : ω} {fuel : Nat}
    {ops : List Operation} {s : Setting (Recorded ω)} {replies : List Reply}
    (hops : (⟨{ observers }, ⟨world, []⟩⟩ : Setting (Recorded ω)).operateAll? fuel ops =
      some (s, replies))
    (hlt : tally rounds s.world.actions < UInt64.size) :
    Accounted observers ops s.blinker s.world.actions := by
  have hbooks := recorded_books hops
  obtain ⟨n, hwrites⟩ := recorded_writes hops
  have hn : tally rounds s.world.actions = 7600000 * (n + ops.count .pause) := by
    rw [← rounds_calls, hbooks.paced.rounds_eq, portWrites_calls, hwrites.data,
      PinState.length_patterns]
  have hof : ∀ m < UInt64.size, ((0 : UInt64) + UInt64.ofNat m).toNat = m := by
    intro m hm
    rw [UInt64.zero_add, UInt64.toNat_ofNat_of_lt' hm]
  refine ⟨hbooks.paced, ?_, ?_, fun o ho => hbooks.told o (Operation.not_mem_joins ho)⟩
  · rw [hn, hwrites.toggles, hof n (by omega)]
  · rw [hbooks.asked, hof _ hlt]

/-- A report of a run at some point of the life of a blinker says by how much the rounds have grown. -/
theorem Setting.report_accounted {ω : Type} [Environment ω] {observers : List Nat} {world : ω}
    {fuel : Nat} {ops : List Operation} {op : Operation} {s s' : Setting (Recorded ω)}
    {replies : List Reply} {r : Report}
    (hops : (⟨{ observers }, ⟨world, []⟩⟩ : Setting (Recorded ω)).operateAll? fuel ops =
      some (s, replies))
    (hop : s.operate? fuel op = some (s', .report r))
    (hlt : tally rounds s'.world.actions < UInt64.size) :
    s.blinker.delayIterations.toNat + r.delayIterations.toNat =
      s'.blinker.delayIterations.toNat := by
  have hone : s.operateAll? fuel [op] = some (s', [.report r]) :=
    operateAll?_cons.2 ⟨s', .report r, [], hop, rfl, rfl⟩
  have hle := rounds_le hone
  have hbefore := (accounted hops (by omega)).asked
  have hbehind := (accounted (operateAll?_append.2 ⟨s, replies, _, hops, hone, rfl⟩) hlt).asked
  obtain ⟨k, hdoes⟩ := does_of_operate? hop
  have hgrown := congrArg UInt64.toNat hdoes.report
  rw [UInt64.toNat_add] at hgrown
  have hr := r.delayIterations.toNat_lt
  -- The sum has not gone round, since it is not less than what there was before.
  omega

/-- Whatever is asked of a fresh blinker, in any world: the rounds that its delay was made to wait
for, that it says it has asked for and that those were told of who listened from the start are the
same, and so many for each toggle and each pause. A delay that counts has counted as many. Each report
says by how many they grew in its run. -/
theorem delays_accounted {ω : Type} [Environment ω] {observers : List Nat} {world : ω} {fuel : Nat}
    {ops : List Operation} {s : Setting (Recorded ω)} {replies : List Reply}
    (hops : (⟨{ observers }, ⟨world, []⟩⟩ : Setting (Recorded ω)).operateAll? fuel ops =
      some (s, replies))
    (hlt : tally rounds s.world.actions < UInt64.size) :
    Accounted observers ops s.blinker s.world.actions ∧
    (∀ {delay : ω → Delay}, Part delay Delay.act → ∀ {count : UInt64 → Delay},
      count = .idle ∨ count = .busy → delay world = count 0 →
        delay s.world.world = count s.blinker.delayIterations) ∧
    ∀ {before op behind}, ops = before ++ op :: behind → ∃ mid after reply first rest,
      (⟨{ observers }, ⟨world, []⟩⟩ : Setting (Recorded ω)).operateAll? fuel before =
        some (mid, first) ∧
      mid.operate? fuel op = some (after, reply) ∧ replies = first ++ reply :: rest ∧
      ∀ r, reply = .report r → mid.blinker.delayIterations.toNat + r.delayIterations.toNat =
        after.blinker.delayIterations.toNat := by
  refine ⟨Setting.accounted hops hlt, ?_, ?_⟩
  · intro delay hpart count hcount hdelay
    have hwait : ∀ q n, (count q).wait n = count (q + n) := by
      rintro q n
      rcases hcount with rfl | rfl <;> rfl
    rw [hpart.of_operateAll? hops, hdelay, Delay.foldl_act hwait, (Setting.recorded_books hops).asked]
  · rintro before op behind rfl
    obtain ⟨mid, first, rest, hbefore, hrest, rfl⟩ := Setting.operateAll?_append.1 hops
    obtain ⟨after, reply, rest, hop, hbehind, rfl⟩ := Setting.operateAll?_cons.1 hrest
    refine ⟨mid, after, reply, first, rest, hbefore, hop, rfl, ?_⟩
    rintro r rfl
    exact Setting.report_accounted hbefore hop (Nat.lt_of_le_of_lt (Setting.rounds_le hbehind) hlt)

/-- A pause, and three toggles until the fuse is gone. Someone comes late and is told less. -/
theorem delays_accounted_fusedBench : ∃ s replies,
    (⟨{ observers := [0] }, ⟨fusedBench, []⟩⟩ : Setting (Recorded Bench)).operateAll? 5
      [.pause, .runBounded 2, .observe 1, .run] = some (s, replies) ∧
    Accounted [0] [.pause, .runBounded 2, .observe 1, .run] s.blinker s.world.actions ∧
    tally rounds s.world.actions = 30400000 ∧ tally (toldRounds 0) s.world.actions = 30400000 ∧
    tally (toldRounds 1) s.world.actions = 7600000 ∧
    s.world.world.delay = .idle s.blinker.delayIterations := by
  have hvalues : ((⟨{ observers := [0] }, ⟨fusedBench, []⟩⟩ : Setting (Recorded Bench)).operateAll? 5
      [.pause, .runBounded 2, .observe 1, .run]).map (fun e => (tally rounds e.1.world.actions,
        tally (toldRounds 0) e.1.world.actions, tally (toldRounds 1) e.1.world.actions)) =
      some (30400000, 30400000, 7600000) := by decide +kernel
  obtain ⟨⟨s, replies⟩, hs, hall⟩ := Option.map_eq_some_iff.1 hvalues
  simp only [Prod.mk.injEq] at hall
  obtain ⟨hrounds, hzero, hone⟩ := hall
  have hlt : tally rounds s.world.actions < UInt64.size := by
    rw [hrounds]
    decide
  obtain ⟨haccounted, hdelay, -⟩ := delays_accounted hs hlt
  exact ⟨s, replies, hs, haccounted, hrounds, hzero, hone,
    hdelay Bench.delay_part (.inl rfl) rfl⟩

end BlinkBench
