import BlinkBench.Proofs.Blinker.Notices
import Mathlib.Data.List.Forall2
/-!
# Observers

Whatever is asked of a blinker, there is one sequence of events for all who listen. Who comes late
is told of what is left of it, and who comes twice is told of each event twice. Counts that come
once, before anything else happens, always agree with the blinker. `observers_told` says all of this.
-/
namespace BlinkBench

open Environment

/-! ## The sequence of events -/

/-- An operation that was carried out, with its toggles. -/
structure Deed where
  operation : Operation
  toggles : Nat
deriving DecidableEq, Repr

/-- The toggles of a deed are those that its answer tells of. -/
def Deed.AnsweredBy (d : Deed) (reply : Reply) : Prop :=
  match d.operation with
  | .observe _ | .setDirection | .pause => d.toggles = 0
  | .step => d.toggles = 1
  | .run => ∃ r, reply = .report r ∧ r.toggles = UInt64.ofNat d.toggles
  | .runBounded max =>
    d.toggles ≤ max.toNat ∧ ∃ r, reply = .report r ∧ r.toggles = UInt64.ofNat d.toggles

/-- An event, with those who are told of it in their order. Who comes twice is there twice. -/
structure Notice where
  event : Event
  listeners : List Nat
deriving DecidableEq, Repr

/-- How far a blinker has come. -/
structure Stage where
  initialized : Bool := false
  toggles : Nat := 0
  listeners : List Nat := []

/-- The values that `k` toggles write behind `done` others: low and high in turn. -/
def levels (done k : Nat) : List UInt8 :=
  (List.range k).map fun i => if (done + i) % 2 = 0 then 0xFE else 0xFF

namespace Stage

/-- How far a blinker has come behind a deed. -/
def next (t : Stage) (d : Deed) : Stage where
  initialized := t.initialized || d.operation.settles
  toggles := t.toggles + d.toggles
  listeners := t.listeners ++ d.operation.joins

/-- What is told of a deed. -/
def noticesOf (t : Stage) (d : Deed) : List Notice :=
  (d.operation.events t.initialized (levels t.toggles d.toggles)).map (⟨·, t.listeners⟩)

/-- What is told of deeds, one after another. -/
def notices (t : Stage) : List Deed → List Notice
  | [] => []
  | d :: deeds => t.noticesOf d ++ (t.next d).notices deeds

/-- How far a blinker has come behind some deeds. -/
def behind (t : Stage) (deeds : List Deed) : Stage :=
  deeds.foldl next t

theorem notices_append (t : Stage) (deeds deeds' : List Deed) :
    t.notices (deeds ++ deeds') = t.notices deeds ++ (t.behind deeds).notices deeds' := by
  induction deeds generalizing t with
  | nil => rfl
  | cons d deeds ih =>
    rw [List.cons_append, notices, ih, notices, List.append_assoc]
    rfl

/-! ## Those who listen -/

theorem listeners_behind (t : Stage) (deeds : List Deed) : (t.behind deeds).listeners =
    t.listeners ++ (deeds.map (·.operation)).flatMap Operation.joins := by
  induction deeds generalizing t with
  | nil => simp [behind]
  | cons d deeds ih =>
    show ((t.next d).behind deeds).listeners = _
    rw [ih, next, List.append_assoc, List.map_cons, List.flatMap_cons]

/-- All who listened before the deeds are told of them, and perhaps some of those who come with them. -/
theorem listeners_of_mem_notices {t : Stage} {deeds : List Deed} {n : Notice}
    (hn : n ∈ t.notices deeds) : ∃ joined,
      n.listeners = t.listeners ++ joined ∧
      joined <+: (deeds.map (·.operation)).flatMap Operation.joins := by
  induction deeds generalizing t with
  | nil => cases hn
  | cons d deeds ih =>
    rcases List.mem_append.1 hn with hd | hdeeds
    · obtain ⟨e, -, rfl⟩ := List.mem_map.1 hd
      exact ⟨[], (List.append_nil _).symm, List.nil_prefix⟩
    · obtain ⟨joined, heq, hinitial⟩ := ih hdeeds
      refine ⟨d.operation.joins ++ joined, by rw [heq, next, List.append_assoc], ?_⟩
      rw [List.map_cons, List.flatMap_cons]
      exact (List.prefix_append_right_inj _).2 hinitial

end Stage

/-- What the listener of a number, counted in their order, is told. -/
def received (i : Nat) (notices : List Notice) : List (Nat × Event) :=
  notices.filterMap fun n => n.listeners[i]?.map (·, n.event)

/-- What all listeners are told. -/
def spread (notices : List Notice) : List (Nat × Event) :=
  notices.flatMap fun n => n.listeners.map (·, n.event)

/-- What someone hears of all that anyone is told. -/
def heard (o : Nat) (told : List (Nat × Event)) : List Event :=
  told.filterMap fun t => if t.1 = o then some t.2 else none

@[simp] theorem heard_append (o : Nat) (l l' : List (Nat × Event)) :
    heard o (l ++ l') = heard o l ++ heard o l' :=
  List.filterMap_append

theorem heard_map (o : Nat) (listeners : List Nat) (e : Event) :
    heard o (listeners.map (·, e)) = List.replicate (listeners.count o) e := by
  induction listeners with
  | nil => rfl
  | cons o' listeners ih =>
    rw [heard] at ih
    by_cases h : o' = o
    · simp [heard, h, ih, List.replicate_succ]
    · simp [heard, h, ih]

/-- Who is among those who listen so many times is told of each event as often. -/
theorem heard_spread (o : Nat) (notices : List Notice) : heard o (spread notices) =
    notices.flatMap fun n => List.replicate (n.listeners.count o) n.event := by
  induction notices with
  | nil => rfl
  | cons n notices ih =>
    rw [spread, List.flatMap_cons, heard_append, heard_map, List.flatMap_cons]
    exact congrArg _ ih

theorem received_append (i : Nat) (l l' : List Notice) :
    received i (l ++ l') = received i l ++ received i l' :=
  List.filterMap_append

namespace Stage

variable {t : Stage} {before later : List Deed} {d : Deed} {o : Nat}

/-- Nothing is told when someone comes. -/
theorem notices_observe (hd : d.operation = .observe o) : t.notices (before ++ d :: later) =
    t.notices before ++ ((t.behind before).next d).notices later := by
  have hnone : (t.behind before).noticesOf d = [] := by
    rw [noticesOf, hd]
    rfl
  rw [notices_append, notices, hnone, List.nil_append]

/-- Those who come later are not told yet. -/
theorem received_before (t : Stage) (before : List Deed) :
    received (t.behind before).listeners.length (t.notices before) = [] := by
  refine List.filterMap_eq_nil_iff.2 fun n hn => ?_
  obtain ⟨joined, heq, hinitial⟩ := listeners_of_mem_notices hn
  have hle := hinitial.length_le
  have hlength : n.listeners.length ≤ (t.behind before).listeners.length := by
    rw [heq, listeners_behind, List.length_append, List.length_append]
    omega
  rw [List.getElem?_eq_none hlength]
  rfl

/-- Who has come is told of everything from then on. -/
theorem received_later (hd : d.operation = .observe o) :
    received t.listeners.length ((t.next d).notices later) =
      ((t.next d).notices later).map fun n => (o, n.event) := by
  rw [received, ← List.filterMap_eq_map']
  refine List.filterMap_congr fun n hn => ?_
  obtain ⟨joined, heq, -⟩ := listeners_of_mem_notices hn
  have hjoins : (t.next d).listeners = t.listeners ++ [o] := by
    rw [next, hd]
    rfl
  rw [heq, hjoins, List.append_assoc, List.getElem?_append_right (Nat.le_refl _), Nat.sub_self]
  rfl

/-- Who does not come any more is told of each event as often as they have come before. -/
theorem count_listeners (hlater : ∀ d ∈ later, d.operation ≠ .observe o) {n : Notice}
    (hn : n ∈ t.notices later) : n.listeners.count o = t.listeners.count o := by
  obtain ⟨joined, heq, hinitial⟩ := listeners_of_mem_notices hn
  have hnot : .observe o ∉ later.map (·.operation) := by
    simpa using hlater
  have hjoined : joined.count o = 0 :=
    List.count_eq_zero.2 fun ho => Operation.not_mem_joins hnot (hinitial.subset ho)
  rw [heq, List.count_append, hjoined, Nat.add_zero]

end Stage

theorem Operation.count_joins (o : Nat) (ops : List Operation) :
    (ops.flatMap joins).count o = ops.count (.observe o) := by
  induction ops with
  | nil => rfl
  | cons op ops ih =>
    rw [List.flatMap_cons, List.count_append, ih, List.count_cons]
    cases op <;> simp [joins, List.count_singleton, Nat.add_comm]

/-! ## Operations one after another -/

/-- A blinker that has come this far. -/
structure Stage.Shows (t : Stage) (b : Blinker) : Prop where
  initialized : b.initialized = t.initialized
  state : b.state = PinState.after none t.toggles
  listeners : b.observers = t.listeners

/-- Some actions of a blinker tell those who listen of just these deeds. -/
structure Stage.Tells (t : Stage) (b b' : Blinker) (deeds : List Deed) (actions : List Action) :
    Prop where
  told : tells actions = spread (t.notices deeds)
  calls : calls actions = (t.notices deeds).flatMap (·.event.calls)
  counted {m : Metrics} (hm : m.Tracks b) :
    (((t.notices deeds).map (·.event)).foldl Metrics.tell m).Tracks b'

/-- What is told of a deed comes before what is told of those behind it. -/
theorem Stage.Tells.cons {t : Stage} {b b' b'' : Blinker} {d : Deed} {deeds : List Deed}
    {l l' : List Action} (h : BlinkBench.Tells b b' d.operation.joins
      (d.operation.events t.initialized (levels t.toggles d.toggles)) l)
    (hlisteners : b.observers = t.listeners) (h' : (t.next d).Tells b' b'' deeds l') :
    t.Tells b b'' (d :: deeds) (l ++ l') where
  told := by
    rw [tells_append, h.told, h'.told, hlisteners, notices, spread, spread, List.flatMap_append,
      noticesOf, List.flatMap_map]
  calls := by
    rw [calls_append, h.calls, h'.calls, notices, List.flatMap_append, noticesOf, List.flatMap_map]
  counted hm := by
    have hevents : (t.noticesOf d).map (·.event) =
        d.operation.events t.initialized (levels t.toggles d.toggles) := by
      rw [noticesOf, List.map_map]
      exact List.map_id _
    rw [notices, List.map_append, List.foldl_append, hevents]
    exact h'.counted (h.counted hm)

theorem PinState.patterns_after_none (done k : Nat) :
    patterns (after none done) k = levels done k := by
  have hsplit := patterns_add none done k
  rw [patterns_none, patterns_none, List.range_add, List.map_append, List.map_map] at hsplit
  exact (List.append_cancel_left hsplit).symm

namespace Setting

variable {ω : Type} [Environment ω] {s s' : Setting ω} {t : Stage} {fuel : Nat}

theorem Does.answeredBy {op : Operation} {reply : Reply} {k : Nat} (h : s.Does op s' reply k) :
    Deed.AnsweredBy ⟨op, k⟩ reply := by
  cases h with
  | observe | setDirection | pause | step => rfl
  | run => exact ⟨_, rfl, rfl⟩
  | runBounded hk => exact ⟨hk.le_budget, _, rfl, rfl⟩

theorem Does.shows {op : Operation} {reply : Reply} {k : Nat} (h : s.Does op s' reply k)
    (ht : t.Shows s.blinker) (hobservers : s'.blinker.observers = s.blinker.observers ++ op.joins) :
    (t.next ⟨op, k⟩).Shows s'.blinker where
  initialized := by rw [h.advances.initialized, ht.initialized, Stage.next]
  state := by rw [h.advances.state, ht.state, Stage.next, PinState.after_add]
  listeners := by rw [hobservers, ht.listeners, Stage.next]

theorem operateAll?_tells (ht : t.Shows s.blinker) {ops : List Operation} {replies : List Reply}
    (hops : s.operateAll? fuel ops = some (s', replies)) : ∃ deeds actions,
      deeds.map (·.operation) = ops ∧ List.Forall₂ Deed.AnsweredBy deeds replies ∧
      s'.world = performAll s.world actions ∧
      t.Tells s.blinker s'.blinker deeds actions := by
  induction ops generalizing s t replies with
  | nil =>
    cases hops
    exact ⟨[], [], rfl, .nil, rfl, rfl, rfl, id⟩
  | cons op ops ih =>
    obtain ⟨mid, reply, rest, hop, hrest, rfl⟩ := operateAll?_cons.1 hops
    obtain ⟨k, hdoes⟩ := does_of_operate? hop
    obtain ⟨l, hl, htells⟩ := hdoes.tells
    obtain ⟨deeds, l', hdeeds, hanswers, hl', htells'⟩ := ih (hdoes.shows ht htells.observers) hrest
    rw [ht.state, PinState.patterns_after_none, ht.initialized] at htells
    refine ⟨⟨op, k⟩ :: deeds, l ++ l', ?_, .cons hdoes.answeredBy hanswers, ?_,
      .cons (d := ⟨op, k⟩) htells ht.listeners htells'⟩
    · rw [List.map_cons, hdeeds]
    · rw [hl', hl, performAll_append]

end Setting

/-! ## Counts -/

/-- Counts take what they are told, as the observer that they are, and no other action. -/
def Metrics.act (o : Nat) (m : Metrics) : Action → Metrics
  | .tell observer event => if observer = o then m.tell event else m
  | _ => m

theorem Metrics.foldl_act (o : Nat) (m : Metrics) (actions : List Action) :
    actions.foldl (Metrics.act o) m = (heard o (tells actions)).foldl Metrics.tell m := by
  induction actions generalizing m with
  | nil => rfl
  | cons a actions ih =>
    rw [List.foldl_cons, ih]
    cases a with
    | tell observer event => by_cases h : observer = o <;> simp [act, tells, heard, Action.tell?, h]
    | write | wait | note => rfl

theorem Bench.metrics_part : Part Bench.metrics (Metrics.act Bench.metricsId) where
  perform b a := by
    cases a with
    | write w =>
      obtain ⟨_ | _, v⟩ := w
      · rfl
      · show (Bench.write b ⟨.data, v⟩).metrics = b.metrics
        simp only [Bench.write, Bench.burn]
        split <;> rfl
    | tell observer e =>
      show (Bench.tell b observer e).metrics = _
      rw [Bench.tell, Metrics.act]
      by_cases hrecorder : observer = Bench.recorderId
      · rw [if_pos hrecorder, hrecorder]
        rfl
      · rw [if_neg hrecorder]
        split <;> rfl
    | wait | note => rfl

/-- Nothing is told while there is nothing but people coming. -/
theorem Stage.notices_of_observe {deeds : List Deed} (t : Stage)
    (h : ∀ d ∈ deeds, ∃ o, d.operation = .observe o) : t.notices deeds = [] := by
  induction deeds generalizing t with
  | nil => rfl
  | cons d deeds ih =>
    obtain ⟨o, hd⟩ := h d List.mem_cons_self
    rw [notices, ih _ fun d hd => h d (List.mem_cons_of_mem _ hd), noticesOf, hd]
    rfl

/-! ## Main theorem -/

/-- What those who listen to a blinker are told in its whole life so far, when it was asked for some
operations and has given some answers. -/
structure Observed (ops : List Operation) (replies : List Reply) (deeds : List Deed)
    (actions : List Action) : Prop where
  operations : deeds.map (·.operation) = ops
  answers : List.Forall₂ Deed.AnsweredBy deeds replies
  /-- The events are those of what the port and the delay were made to do. -/
  calls : calls actions = (({} : Stage).notices deeds).flatMap (·.event.calls)
  told : tells actions = spread (({} : Stage).notices deeds)
  /-- Who comes is told of all events from then on. -/
  received {before later : List Deed} {d : Deed} {o : Nat} (hdeeds : deeds = before ++ d :: later)
    (hd : d.operation = .observe o) :
    let stage := ({} : Stage).behind before
    ({} : Stage).notices deeds = ({} : Stage).notices before ++ (stage.next d).notices later ∧
      received stage.listeners.length (({} : Stage).notices deeds) =
        ((stage.next d).notices later).map fun n => (o, n.event)
  /-- Who has come several times is told of each later event as often. -/
  heard {before later : List Deed} {o : Nat} (hdeeds : deeds = before ++ later)
    (hlater : ∀ d ∈ later, d.operation ≠ .observe o) :
    heard o (tells actions) = heard o (spread (({} : Stage).notices before)) ++
      ((({} : Stage).behind before).notices later).flatMap fun n =>
        List.replicate ((before.map (·.operation)).count (.observe o)) n.event

theorem Stage.Tells.observed {b : Blinker} {deeds : List Deed} {actions : List Action}
    {replies : List Reply} (h : ({} : Stage).Tells {} b deeds actions)
    (hanswers : List.Forall₂ Deed.AnsweredBy deeds replies) :
    Observed (deeds.map (·.operation)) replies deeds actions where
  operations := rfl
  answers := hanswers
  calls := h.calls
  told := h.told
  received := by
    rintro before later d o rfl hd
    refine ⟨notices_observe hd, ?_⟩
    rw [notices_observe hd, received_append, received_before, received_later hd, List.nil_append]
  heard := by
    rintro before later o rfl hlater
    rw [h.told, notices_append, spread, List.flatMap_append, heard_append]
    refine congrArg _ ((heard_spread o _).trans (List.flatMap_congr fun n hn => ?_))
    rw [count_listeners hlater hn, listeners_behind, List.nil_append, Operation.count_joins]

/-- Counts that come once, before anything else happens, agree with the blinker. -/
theorem Stage.Tells.tracks {b : Blinker} {before later : List Deed} {d : Deed} {o : Nat}
    {actions : List Action} (h : ({} : Stage).Tells {} b (before ++ d :: later) actions)
    (hbefore : ∀ d ∈ before, ∃ o', o' ≠ o ∧ d.operation = .observe o')
    (hd : d.operation = .observe o) (hlater : ∀ d ∈ later, d.operation ≠ .observe o) :
    (actions.foldl (Metrics.act o) {}).Tracks b := by
  have hfirst : ({} : Stage).notices before = [] :=
    notices_of_observe _ fun d hd => (hbefore d hd).imp fun _ ho => ho.2
  have hothers : (before.map (·.operation)).count (.observe o) = 0 := by
    refine List.count_eq_zero.2 fun hmem => ?_
    obtain ⟨d', hd', heq⟩ := List.mem_map.1 hmem
    obtain ⟨o', hne, heq'⟩ := hbefore d' hd'
    exact hne (Operation.observe.inj (heq'.symm.trans heq))
  have hcount : ((({} : Stage).behind before).next d).listeners.count o = 1 := by
    rw [next, listeners_behind, hd, List.nil_append, List.count_append, Operation.count_joins, hothers]
    simp [Operation.joins]
  -- So each event is told once to the counts.
  have hheard : BlinkBench.heard o (spread (({} : Stage).notices (before ++ d :: later))) =
      (({} : Stage).notices (before ++ d :: later)).map (·.event) := by
    rw [notices_observe hd, hfirst, List.nil_append, heard_spread, List.map_eq_flatMap]
    refine List.flatMap_congr fun n hn => ?_
    rw [count_listeners hlater hn, hcount, List.replicate_one]
  rw [Metrics.foldl_act, h.told, hheard]
  exact h.counted ⟨rfl, rfl, rfl⟩

/-- Whatever is asked of a fresh blinker in any world, as long as all its runs end: those who listen
are told of one sequence of events, each from when they came on and as often as they came. Counts that
come once, before anything else happens, agree with the blinker whenever it has answered. -/
theorem observers_told {ω : Type} [Environment ω] {fuel : Nat} {world : ω} {ops : List Operation}
    {s : Setting ω} {replies : List Reply}
    (h : (⟨{}, world⟩ : Setting ω).operateAll? fuel ops = some (s, replies)) :
    ∃ actions deeds, (⟨{}, ⟨world, []⟩⟩ : Setting (Recorded ω)).operateAll? fuel ops =
        some (⟨s.blinker, ⟨s.world, actions⟩⟩, replies) ∧
      Observed ops replies deeds actions ∧
      ∀ {metrics : ω → Metrics} {o : Nat}, Part metrics (Metrics.act o) → metrics world = {} →
        ∀ {before later : List Operation}, ops = before ++ .observe o :: later →
          (∀ op ∈ before, ∃ o', o' ≠ o ∧ op = .observe o') → .observe o ∉ later →
          (metrics s.world).Tracks s.blinker := by
  obtain ⟨actions, hrecorded⟩ := Recorded.operateAll? h
  obtain ⟨deeds, l, hdeeds, hanswers, hworld, htells⟩ :=
    Setting.operateAll?_tells (t := {}) ⟨rfl, rfl, rfl⟩ hrecorded
  have hl : actions = l := by
    have := congrArg Recorded.actions hworld
    rwa [Recorded.chronicle.performAll, List.nil_append] at this
  subst hl hdeeds
  refine ⟨actions, deeds, hrecorded, htells.observed hanswers, ?_⟩
  intro metrics o hpart hfresh before later hops hbefore hlater
  obtain ⟨first, rest, rfl, rfl, hrest⟩ := List.map_eq_append_iff.1 hops
  obtain ⟨d, rest, rfl, hd, rfl⟩ := List.map_eq_cons_iff.1 hrest
  have htracks := htells.tracks (by simpa using hbefore) hd (by simpa using hlater)
  rw [hpart.of_operateAll? hrecorded, hfresh]
  exact htracks

/-- Who comes twice is told of a toggle twice, and not of the pause before. -/
theorem observers_told_fusedBench : ∃ s replies,
    (⟨{}, fusedBench⟩ : Setting Bench).operateAll? 5
      [.observe 1, .pause, .observe 0, .observe 0, .step] = some (s, replies) ∧
    s.world.events = [.delay 7600000, .delay 7600000, .data 0xFE, .data 0xFE, .direction 0xFF,
      .direction 0xFF] ∧
    s.world.metrics.Tracks s.blinker ∧ s.world.metrics.toggles = 1 := by
  have hvalues : ((⟨{}, fusedBench⟩ : Setting Bench).operateAll? 5
      [.observe 1, .pause, .observe 0, .observe 0, .step]).map (fun e =>
        (e.1.world.events, e.1.world.metrics.toggles)) =
      some ([.delay 7600000, .delay 7600000, .data 0xFE, .data 0xFE, .direction 0xFF,
        .direction 0xFF], 1) := by decide +kernel
  obtain ⟨⟨s, replies⟩, hs, hall⟩ := Option.map_eq_some_iff.1 hvalues
  obtain ⟨hevents, htoggles⟩ := Prod.mk.inj hall
  obtain ⟨-, -, -, -, htracks⟩ := observers_told hs
  have hsplit : [Operation.observe 1, .pause, .observe 0, .observe 0, .step] =
      [] ++ .observe Bench.metricsId :: [.pause, .observe 0, .observe 0, .step] := rfl
  exact ⟨s, replies, hs, hevents, htracks Bench.metrics_part rfl hsplit (by simp) (by decide),
    htoggles⟩

end BlinkBench
