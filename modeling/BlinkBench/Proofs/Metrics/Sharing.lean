import BlinkBench.Proofs.Metrics
import Mathlib.Data.List.Basic
/-!
# Counts that several tell

Several sources of events may tell the same counts at once. Each makes its calls one after another,
but between two updates of one call there may be updates of the others. Nobody ever waits, so all calls
can always be brought to their ends (`exists_follow?`), and then no update is lost: the counts are those
that the same calls leave when they are made one at a time. `no_update_lost` says so for any number of
sources, in whatever order they take their turns.
-/
namespace BlinkBench

/-! ## Sources and their turns -/

/-- A turn of a source: the update that it makes, and the number of its call to which that belongs. -/
structure Turn where
  source : Nat
  call : Nat
  update : Metrics.Update
deriving DecidableEq, Repr

/-- The turns of a source that tells of some events, by a call for each. -/
def turnsOf (source : Nat) (events : List Event) : List Turn :=
  events.zipIdx.flatMap fun (e, call) => (Metrics.updates e).map (⟨source, call, ·⟩)

/-- The turns of each of some sources, which are numbered in their order. -/
def allTurns (sources : List (List Event)) : List (List Turn) :=
  sources.zipIdx.map fun (events, source) => turnsOf source events

/-- Sources that tell the same counts. -/
structure Sharing where
  /-- The turns that each source has still to take. -/
  ahead : List (List Turn)
  /-- The turns that were taken, in their order. -/
  taken : List Turn := []
  metrics : Metrics := {}
deriving DecidableEq, Repr

namespace Sharing

/-- Fresh counts, and sources that have not told of anything yet. -/
def ofSources (sources : List (List Event)) : Sharing where
  ahead := allTurns sources

/-- A source takes its next turn, if there is one. -/
def step? (s : Sharing) (source : Nat) : Option Sharing :=
  match s.ahead[source]? with
  | some (turn :: later) =>
    some ⟨s.ahead.set source later, s.taken ++ [turn], s.metrics.apply turn.update⟩
  | _ => none

/-- The sources take turns in the order of a schedule. -/
def follow? (s : Sharing) : List Nat → Option Sharing
  | [] => some s
  | source :: schedule => (s.step? source).bind (·.follow? schedule)

/-- Whether all calls are over. -/
def isDone (s : Sharing) : Bool :=
  s.ahead.all List.isEmpty

end Sharing

/-! ## Turns and calls -/

theorem source_of_mem_turnsOf {source : Nat} {events : List Event} {turn : Turn}
    (h : turn ∈ turnsOf source events) : turn.source = source := by
  obtain ⟨c, -, hturn⟩ := List.mem_flatMap.1 h
  obtain ⟨u, -, rfl⟩ := List.mem_map.1 hturn
  rfl

theorem map_update_turnsOf (source : Nat) (events : List Event) :
    (turnsOf source events).map (·.update) = events.flatMap Metrics.updates := by
  have hcall (c : Event × Nat) :
      ((Metrics.updates c.1).map (Turn.mk source c.2 ·)).map (·.update) = Metrics.updates c.1 := by
    rw [List.map_map]
    exact List.map_id _
  rw [turnsOf, List.map_flatMap]
  simp only [hcall]
  rw [← List.flatMap_map, List.zipIdx_map_fst]

variable {sources : List (List Event)}

theorem map_update_allTurns (sources : List (List Event)) :
    (allTurns sources).flatten.map (·.update) = sources.flatten.flatMap Metrics.updates := by
  rw [allTurns, ← List.flatMap_def, List.map_flatMap]
  simp only [map_update_turnsOf]
  rw [← List.flatMap_map, List.zipIdx_map_fst, List.flatten_eq_flatMap, List.flatMap_assoc]
  rfl

theorem getD_allTurns (sources : List (List Event)) (source : Nat) :
    (allTurns sources)[source]?.getD [] = turnsOf source (sources[source]?.getD []) := by
  rw [allTurns, List.getElem?_map, List.getElem?_zipIdx]
  cases sources[source]? <;> simp [turnsOf]

/-- A turn belongs to a call that some source makes. -/
theorem call_of_mem_allTurns {turn : Turn} (h : turn ∈ (allTurns sources).flatten) :
    ∃ events e, sources[turn.source]? = some events ∧ events[turn.call]? = some e ∧
      turn.update ∈ Metrics.updates e := by
  obtain ⟨turns, hturns, hturn⟩ := List.mem_flatten.1 h
  obtain ⟨⟨events, source⟩, hsource, rfl⟩ := List.mem_map.1 hturns
  obtain ⟨⟨e, call⟩, hcall, hupdate⟩ := List.mem_flatMap.1 hturn
  obtain ⟨u, hu, rfl⟩ := List.mem_map.1 hupdate
  exact ⟨events, e, List.mem_zipIdx_iff_getElem?.1 hsource, List.mem_zipIdx_iff_getElem?.1 hcall, hu⟩

/-- The calls that some turns bring to their ends, each with its source. -/
def endedBy (turns : List Turn) : List (Nat × Event) :=
  turns.filterMap fun turn => turn.update.ends?.map (turn.source, ·)

theorem map_endedBy (turns : List Turn) :
    (endedBy turns).map (·.2) = (turns.map (·.update)).filterMap Metrics.Update.ends? := by
  rw [endedBy, List.map_filterMap, List.filterMap_map]
  refine List.filterMap_congr fun turn _ => ?_
  rw [Option.map_map]
  exact Option.map_id_apply

/-- The calls that a source brings to their ends are those of its own turns. -/
theorem filter_endedBy (turns : List Turn) (source : Nat) :
    (endedBy turns).filter (·.1 = source) = endedBy (turns.filter (·.source = source)) := by
  rw [endedBy, List.filter_filterMap, endedBy, List.filterMap_filter]
  refine List.filterMap_congr fun turn _ => ?_
  cases turn.update.ends? <;> simp [Option.filter]

/-! ## Lists -/

/-- What is taken from one of several lists is missing from all of them together. -/
theorem perm_flatten_set {α : Type} {lists : List (List α)} {i : Nat} {a : α} {later : List α}
    (h : lists[i]? = some (a :: later)) :
    (a :: (lists.set i later).flatten).Perm lists.flatten := by
  obtain ⟨hlt, hget⟩ := List.getElem?_eq_some_iff.1 h
  have hsplit : ∃ before after, lists = before ++ lists[i] :: after ∧ before.length = i ∧
      lists.set i later = before ++ later :: after := List.exists_of_set hlt
  obtain ⟨before, after, hlists, -, hset⟩ := hsplit
  rw [hget] at hlists
  rw [hset, hlists, List.flatten_append, List.flatten_append, List.flatten_cons, List.flatten_cons,
    List.cons_append]
  exact List.perm_middle.symm

/-- The last value that a list gives is that of the last element which gives any. -/
theorem getLast?_filterMap_eq_some {α β : Type} {f : α → Option β} {l : List α} {b : β} :
    (l.filterMap f).getLast? = some b ↔
      ∃ before a after, l = before ++ a :: after ∧ f a = some b ∧ ∀ x ∈ after, f x = none := by
  rw [List.getLast?_filterMap, List.findSome?_eq_some_iff]
  constructor
  · rintro ⟨after, a, before, hl, ha, hafter⟩
    refine ⟨before.reverse, a, after.reverse, ?_, ha, fun x hx => hafter x (List.mem_reverse.1 hx)⟩
    rw [← List.reverse_reverse l, hl]
    simp
  · rintro ⟨before, a, after, rfl, ha, hafter⟩
    exact ⟨after.reverse, a, before.reverse, by simp, ha, fun x hx => hafter x (List.mem_reverse.1 hx)⟩

/-! ## Turn by turn -/

namespace Sharing

variable {s s' : Sharing} {source : Nat} {schedule : List Nat}

theorem step?_eq_some : s.step? source = some s' ↔ ∃ turn later,
    s.ahead[source]? = some (turn :: later) ∧
    s' = ⟨s.ahead.set source later, s.taken ++ [turn], s.metrics.apply turn.update⟩ := by
  unfold step?
  constructor
  · intro h
    split at h
    · rename_i turn later hturns
      cases h
      exact ⟨turn, later, hturns, rfl⟩
    · cases h
  · rintro ⟨turn, later, hturns, rfl⟩
    rw [hturns]

theorem isDone_iff : s.isDone = true ↔ s.ahead.flatten = [] := by
  simp [isDone]

/-- A source that has turns left never waits for another. -/
theorem exists_step? (h : s.isDone = false) : ∃ source s', s.step? source = some s' := by
  obtain ⟨turns, hturns, hne⟩ : ∃ turns ∈ s.ahead, turns ≠ [] := by
    simpa [isDone] using h
  obtain ⟨turn, later, rfl⟩ := List.exists_cons_of_ne_nil hne
  obtain ⟨source, hsource⟩ := List.mem_iff_getElem?.1 hturns
  exact ⟨source, _, step?_eq_some.2 ⟨turn, later, hsource, rfl⟩⟩

/-- However far the sources have come, all calls can be brought to their ends. -/
theorem exists_follow? (s : Sharing) :
    ∃ schedule s', s.follow? schedule = some s' ∧ s'.isDone = true := by
  induction hcount : s.ahead.flatten.length generalizing s with
  | zero => exact ⟨[], s, rfl, isDone_iff.2 (List.length_eq_zero_iff.1 hcount)⟩
  | succ n ih =>
    have hnot : s.isDone = false := by
      rw [Bool.eq_false_iff, Ne, isDone_iff, ← List.length_eq_zero_iff, hcount]
      exact Nat.succ_ne_zero n
    obtain ⟨source, s₁, hstep⟩ := exists_step? hnot
    have hless : s₁.ahead.flatten.length = n := by
      obtain ⟨turn, later, hturns, rfl⟩ := step?_eq_some.1 hstep
      have hlength := (perm_flatten_set hturns).length_eq
      rw [List.length_cons, hcount] at hlength
      exact Nat.succ.inj hlength
    obtain ⟨schedule, s', hfollow, hdone⟩ := ih s₁ hless
    exact ⟨source :: schedule, s', by rw [follow?, hstep]; exact hfollow, hdone⟩

/-- The turns that were taken and those ahead are the turns of some sources, and the counts are what the
turns that were taken have made of fresh ones. -/
structure AccountsFor (s : Sharing) (sources : List (List Event)) : Prop where
  turns : (s.taken ++ s.ahead.flatten).Perm (allTurns sources).flatten
  order (source : Nat) : s.taken.filter (·.source = source) ++ s.ahead[source]?.getD [] =
    turnsOf source (sources[source]?.getD [])
  metrics : s.metrics = (s.taken.map (·.update)).foldl Metrics.apply {}

theorem accountsFor_ofSources (sources : List (List Event)) :
    (ofSources sources).AccountsFor sources where
  turns := .refl _
  order := getD_allTurns sources
  metrics := rfl

theorem AccountsFor.step (h : s.AccountsFor sources) (hstep : s.step? source = some s') :
    s'.AccountsFor sources := by
  obtain ⟨turn, later, hturns, rfl⟩ := step?_eq_some.1 hstep
  obtain ⟨hlt, -⟩ := List.getElem?_eq_some_iff.1 hturns
  have horder := h.order source
  rw [hturns, Option.getD_some] at horder
  have hmem : turn ∈ turnsOf source (sources[source]?.getD []) := by
    rw [← horder]
    exact List.mem_append_right _ List.mem_cons_self
  have hsource := source_of_mem_turnsOf hmem
  refine ⟨.trans ?_ h.turns, fun j => ?_, ?_⟩
  · rw [List.append_assoc, List.singleton_append]
    exact (perm_flatten_set hturns).append_left s.taken
  · rw [List.filter_append]
    by_cases hj : source = j
    · subst hj
      rw [List.getElem?_set_self hlt, ← horder, List.append_assoc]
      simp [hsource]
    · rw [List.getElem?_set_ne hj, ← h.order j]
      simp [hsource, hj]
  · rw [h.metrics, List.map_append, List.foldl_append]
    rfl

theorem AccountsFor.follow (h : s.AccountsFor sources) (hfollow : s.follow? schedule = some s') :
    s'.AccountsFor sources := by
  induction schedule generalizing s with
  | nil =>
    cases hfollow
    exact h
  | cons source schedule ih =>
    obtain ⟨mid, hstep, hrest⟩ := Option.bind_eq_some_iff.1 hfollow
    exact ih (h.step hstep) hrest

/-! ## When all calls are over -/

/-- The calls in the order in which they were over, and then those without a turn. -/
def serialized (s : Sharing) (sources : List (List Event)) : List Event :=
  (endedBy s.taken).map (·.2) ++ sources.flatten.filter Metrics.isSilent

/-- The values of the calls that are over are those that were stored. -/
theorem filterMap_serialized (s : Sharing) (sources : List (List Event)) :
    (s.serialized sources).filterMap Event.data? = s.taken.filterMap (·.update.stored?) := by
  have hnone : (sources.flatten.filter Metrics.isSilent).filterMap Event.data? = [] := by
    refine List.filterMap_eq_nil_iff.2 fun e he => ?_
    have hsilent := (List.mem_filter.1 he).2
    cases e with
    | direction => rfl
    | runStart | runStop | data | delay => cases hsilent
  rw [serialized, List.filterMap_append, hnone, List.append_nil, map_endedBy, List.filterMap_map,
    List.filterMap_filterMap]
  simp only [Function.comp, Metrics.Update.ends?_bind_data?]

theorem foldl_serialized (s : Sharing) (sources : List (List Event)) :
    (s.serialized sources).foldl Metrics.tell {} =
      ((endedBy s.taken).map (·.2)).foldl Metrics.tell {} := by
  rw [serialized, List.foldl_append, Metrics.foldl_of_isSilent fun e he => (List.mem_filter.1 he).2]

namespace AccountsFor

variable (h : s.AccountsFor sources) (hdone : s.isDone = true)
include h hdone

theorem taken_perm : s.taken.Perm (allTurns sources).flatten := by
  have hturns := h.turns
  rwa [isDone_iff.1 hdone, List.append_nil] at hturns

theorem updates_perm :
    (s.taken.map (·.update)).Perm (sources.flatten.flatMap Metrics.updates) := by
  rw [← map_update_allTurns]
  exact (h.taken_perm hdone).map _

theorem filter_taken (source : Nat) : s.taken.filter (·.source = source) =
    turnsOf source (sources[source]?.getD []) := by
  have hnone : s.ahead[source]?.getD [] = [] := by
    cases hahead : s.ahead[source]? with
    | none => rfl
    | some turns =>
      exact List.flatten_eq_nil_iff.1 (isDone_iff.1 hdone) turns (List.mem_of_getElem? hahead)
  rw [← h.order source, hnone, List.append_nil]

theorem serialized_perm : (s.serialized sources).Perm sources.flatten := by
  have hends := (h.updates_perm hdone).filterMap Metrics.Update.ends?
  rw [Metrics.ends_updates, ← map_endedBy] at hends
  have hall := List.filter_append_perm (fun e => !Metrics.isSilent e) sources.flatten
  simp only [Bool.not_not] at hall
  exact (hends.append_right _).trans hall

/-- The counts are those that the same calls leave when they are made one at a time. -/
theorem metrics_serialized : s.metrics = (s.serialized sources).foldl Metrics.tell {} := by
  -- All toggles are counted by now, whenever that was.
  have hcount : UInt64.ofNat ((s.taken.map (·.update)).count .countToggle) =
      ((s.serialized sources).foldl Metrics.tell {}).toggles := by
    rw [(Metrics.sums_foldl _).toggles, ((h.serialized_perm hdone).filterMap _).length_eq,
      (h.updates_perm hdone).count_eq, Metrics.count_updates]
  rw [h.metrics, Metrics.foldl_apply, hcount, foldl_serialized, map_endedBy]

/-- The calls of each source are over in their order. -/
theorem filter_endedBy_taken (source : Nat) :
    ((endedBy s.taken).filter (·.1 = source)).map (·.2) =
      (sources[source]?.getD []).filter fun e => !Metrics.isSilent e := by
  rw [filter_endedBy, h.filter_taken hdone, map_endedBy, map_update_turnsOf, Metrics.ends_updates]

theorem sums_serialized : s.metrics.Sums (s.serialized sources) := by
  rw [h.metrics_serialized hdone]
  exact Metrics.sums_foldl _

end AccountsFor

/-! ## Main theorem -/

/-- The last of some turns to store a value stores this one, for a call that tells of it. -/
def StoredLast (sources : List (List Event)) (turns : List Turn) (value : UInt8) : Prop :=
  ∃ before source call after, turns = before ++ ⟨source, call, .storeData value⟩ :: after ∧
    (∀ turn ∈ after, turn.update.stored? = none) ∧
    ∃ events, sources[source]? = some events ∧ events[call]? = some (.data value)

/-- What counts say when some sources have told of all their events, in some turns. -/
structure Told (m : Metrics) (sources : List (List Event)) (turns : List Turn) : Prop where
  /-- Each source took its turns in their order. -/
  order (source : Nat) :
    turns.filter (·.source = source) = turnsOf source (sources[source]?.getD [])
  toggles : m.toggles.toNat = (sources.flatten.filterMap Event.data?).length % UInt64.size
  delayIterations : m.delayIterations.toNat = (sources.flatten.map Event.rounds).sum % UInt64.size
  lastData_none : m.lastData = none ↔ ∀ value, .data value ∉ sources.flatten
  lastData_some (value : UInt8) : m.lastData = some value ↔ StoredLast sources turns value
  /-- The same calls leave these counts when they are made one at a time, those of each source in their
  order. Calls that update nothing may be left out. -/
  serial : ∃ calls : List (Nat × Event), m = (calls.map (·.2)).foldl Metrics.tell {} ∧
    ∀ source : Nat, (calls.filter (·.1 = source)).map (·.2) =
      (sources[source]?.getD []).filter fun e => !Metrics.isSilent e

theorem AccountsFor.lastData_none (h : s.AccountsFor sources) (hdone : s.isDone = true) :
    s.metrics.lastData = none ↔ ∀ value, .data value ∉ sources.flatten := by
  have hmem (e : Event) : e ∈ s.serialized sources ↔ e ∈ sources.flatten :=
    (h.serialized_perm hdone).mem_iff
  rw [(h.sums_serialized hdone).lastData, List.getLast?_eq_none_iff, List.filterMap_eq_nil_iff]
  simp only [hmem]
  constructor
  · intro hnone value hvalue
    cases hnone _ hvalue
  · intro hnot e he
    cases e with
    | data value => exact absurd he (hnot value)
    | runStart | runStop | direction | delay => rfl

theorem AccountsFor.lastData_some (h : s.AccountsFor sources) (hdone : s.isDone = true)
    (value : UInt8) : s.metrics.lastData = some value ↔ StoredLast sources s.taken value := by
  rw [(h.sums_serialized hdone).lastData, filterMap_serialized, getLast?_filterMap_eq_some]
  constructor
  · rintro ⟨before, ⟨source, call, u⟩, after, htaken, hvalue, hafter⟩
    obtain rfl := Metrics.Update.stored?_eq_some.1 hvalue
    have hmem : ⟨source, call, .storeData value⟩ ∈ s.taken := by
      rw [htaken]
      exact List.mem_append_right _ List.mem_cons_self
    obtain ⟨events, e, hevents, he, hu⟩ :=
      call_of_mem_allTurns ((h.taken_perm hdone).subset hmem)
    rw [Metrics.storeData_mem_updates.1 hu] at he
    exact ⟨before, source, call, after, htaken, hafter, events, hevents, he⟩
  · rintro ⟨before, source, call, after, htaken, hafter, -⟩
    exact ⟨before, _, after, htaken, rfl, hafter⟩

/-- In whatever order any number of sources take their turns, no update is lost when all calls are over.
What was counted does not depend on the order, and the last value is the one that was stored last. -/
theorem no_update_lost (h : (ofSources sources).follow? schedule = some s)
    (hdone : s.isDone = true) : Told s.metrics sources s.taken := by
  have ha := (accountsFor_ofSources sources).follow h
  have hperm := ha.serialized_perm hdone
  have hsums := ha.sums_serialized hdone
  have hserial := (ha.metrics_serialized hdone).trans (foldl_serialized s sources)
  refine ⟨ha.filter_taken hdone, ?_, ?_, ha.lastData_none hdone, ha.lastData_some hdone,
    endedBy s.taken, hserial, ha.filter_endedBy_taken hdone⟩
  · rw [hsums.toggles, UInt64.toNat_ofNat', (hperm.filterMap _).length_eq]
  · rw [hsums.delayIterations, UInt64.toNat_ofNat', (hperm.map _).sum_nat]

/-- The call that is the first to count its toggle is the last to store its value, which is the greatest
byte, and the rounds go beyond a word. -/
theorem no_update_lost_overtaken :
    let sources : List (List Event) := [[.direction 0xFF, .data 0xFF, .delay 3],
      [.runStart, .data 0xFE, .delay 0xFFFFFFFFFFFFFFFF, .runStop]]
    ∃ s, (ofSources sources).follow? [0, 1, 1, 1, 0, 1, 0, 1] = some s ∧ s.isDone = true ∧
      Told s.metrics sources s.taken ∧
      s.metrics.toggles = 2 ∧ s.metrics.delayIterations = 2 ∧ s.metrics.lastData = some 0xFF := by
  intro sources
  have hvalues : ((ofSources sources).follow? [0, 1, 1, 1, 0, 1, 0, 1]).map (fun s =>
      (s.isDone, s.metrics.toggles, s.metrics.delayIterations, s.metrics.lastData)) =
      some (true, 2, 2, some 0xFF) := by decide +kernel
  obtain ⟨s, hs, hall⟩ := Option.map_eq_some_iff.1 hvalues
  simp only [Prod.mk.injEq] at hall
  exact ⟨s, hs, hall.1, no_update_lost hs hall.1, hall.2⟩

end Sharing

end BlinkBench
