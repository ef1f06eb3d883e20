import Mathlib.Data.List.Induction
import GasCity.LoopTable

namespace GasCity

open List

def Wisp.Running (w : Wisp) : Prop := w.status = .isOpen ∨ w.status = .inProgress

instance (w : Wisp) : Decidable w.Running := by
  unfold Wisp.Running
  infer_instance

structure Greatest (rootID : String) (rows : List Wisp) (p : Wisp → Prop)
    (best : Option BeadInfo) (iter : Int) : Prop where
  absent : best = none → iter = -1 ∧ ∀ w ∈ rows, ¬ p w
  present : ∀ info, best = some info → ∃ w ∈ rows, p w ∧ info = w.info rootID ∧
    iter = w.iteration ∧ ∀ v ∈ rows, p v → v.iteration ≤ w.iteration

namespace Greatest

variable {rootID : String} {rows : List Wisp} {p : Wisp → Prop} {best : Option BeadInfo} {iter : Int}
  {w : Wisp}

theorem nil : Greatest rootID [] p none (-1) :=
  ⟨fun _ => ⟨rfl, fun _ mem => absurd mem not_mem_nil⟩, fun _ h => absurd h (by simp)⟩

theorem skip (greatest : Greatest rootID rows p best iter) (other : ¬ p w) :
    Greatest rootID (rows ++ [w]) p best iter := by
  have last : ∀ v ∈ rows ++ [w], p v → v ∈ rows := by
    intro v mem pv
    rcases mem_append.mp mem with old | new
    · exact old
    · rw [mem_singleton.mp new] at pv
      exact absurd pv other
  refine ⟨?_, ?_⟩
  · intro unset
    obtain ⟨it, all⟩ := greatest.absent unset
    exact ⟨it, fun v mem pv => all v (last v mem pv) pv⟩
  · intro info set
    obtain ⟨v, mem, pv, eq, it, max⟩ := greatest.present info set
    exact ⟨v, mem_append_left _ mem, pv, eq, it, fun u mem pu => max u (last u mem pu) pu⟩

theorem take (greatest : Greatest rootID rows p best iter) (holds : p w)
    (above : iter < (w.iteration : Int)) :
    Greatest rootID (rows ++ [w]) p (some (w.info rootID)) w.iteration := by
  refine ⟨fun h => absurd h (by simp), ?_⟩
  intro info set
  refine ⟨w, mem_append_right _ mem_cons_self, holds, (Option.some.inj set).symm, rfl, ?_⟩
  intro v mem pv
  rcases mem_append.mp mem with old | new
  · cases unset : best with
    | none => exact absurd pv ((greatest.absent unset).2 v old)
    | some info =>
      obtain ⟨u, _, _, _, it, max⟩ := greatest.present info unset
      have := max v old pv
      omega
  · rw [mem_singleton.mp new]

theorem keep (greatest : Greatest rootID rows p best iter)
    (below : ¬ iter < (w.iteration : Int)) : Greatest rootID (rows ++ [w]) p best iter := by
  refine ⟨?_, ?_⟩
  · intro unset
    have it := (greatest.absent unset).1
    omega
  · intro info set
    obtain ⟨v, mem, pv, eq, it, max⟩ := greatest.present info set
    refine ⟨v, mem_append_left _ mem, pv, eq, it, ?_⟩
    intro u mem pu
    rcases mem_append.mp mem with old | new
    · exact max u old pu
    · rw [mem_singleton.mp new]
      omega

end Greatest

structure StatsOf (rootID : String) (rows : List Wisp) (stats : ChildStats) : Prop where
  count : stats.closedCount = rows.countP (fun w => decide (w.status = .closed))
  closed : Greatest rootID rows (fun w => w.status = .closed) stats.highestClosed
    stats.highestClosedIter
  running : Greatest rootID rows Wisp.Running stats.highestOpen stats.highestOpenIter

theorem StatsOf.item {rootID : String} {rows : List Wisp} {stats : ChildStats} (w : Wisp)
    (known : StatsOf rootID rows stats) :
    StatsOf rootID (rows ++ [w]) (childStatsItem rootID stats (w.info rootID)) := by
  have own : (w.info rootID).idempotencyKey.belongsTo rootID = true := by
    simp [Wisp.info, IdempotencyKey, WispKey.belongsTo]
  have iteration : ParseIterationFromKey (w.info rootID).idempotencyKey = some w.iteration := rfl
  have status : (w.info rootID).status = w.status := rfl
  unfold childStatsItem
  rw [if_neg (by simp [own]), status]
  have more : ∀ b : Bool, decide (w.status = .closed) = b →
      (rows ++ [w]).countP (fun w => decide (w.status = .closed)) =
        rows.countP (fun w => decide (w.status = .closed)) + if b then 1 else 0 := by
    rintro b rfl
    simp [countP_append, countP_cons]
  cases closed : w.status with
  | closed =>
    have idle : ¬ w.Running := by simp [Wisp.Running, closed]
    have counted : stats.closedCount + 1 =
        (rows ++ [w]).countP (fun w => decide (w.status = .closed)) := by
      rw [more true (by simp [closed]), known.count]
      rfl
    simp only [iteration]
    split
    next above => exact ⟨counted, known.closed.take closed above, known.running.skip idle⟩
    next below => exact ⟨counted, known.closed.keep below, known.running.skip idle⟩
  | isOpen | inProgress =>
    have running : w.Running := by simp [Wisp.Running, closed]
    have unclosed : ¬ w.status = .closed := by simp [closed]
    have counted : stats.closedCount =
        (rows ++ [w]).countP (fun w => decide (w.status = .closed)) := by
      rw [more false (by simp [closed]), known.count]
      rfl
    simp only [iteration]
    split
    next above => exact ⟨counted, known.closed.skip unclosed, known.running.take running above⟩
    next below => exact ⟨counted, known.closed.skip unclosed, known.running.keep below⟩
  | other text =>
    have idle : ¬ w.Running := by simp [Wisp.Running, closed]
    have unclosed : ¬ w.status = .closed := by simp [closed]
    refine ⟨?_, known.closed.skip unclosed, known.running.skip idle⟩
    rw [more false (by simp [closed]), known.count]
    rfl

theorem statsOf_childStats (rootID : String) (rows : List Wisp) :
    StatsOf rootID rows (childStats (rows.map (Wisp.info rootID)) rootID) := by
  unfold childStats
  rw [foldl_map]
  induction rows using reverseRecOn with
  | nil => exact ⟨rfl, Greatest.nil, Greatest.nil⟩
  | append_singleton rows w ih =>
    rw [foldl_append]
    exact ih.item w

namespace LoopStore

variable {s : LoopStore} {w : Wisp} {ids : IDSupply}

def closedCount (s : LoopStore) : Nat :=
  s.wisps.rows.countP (fun w => decide (w.status = .closed))

theorem deriveIterationCount_eq (s : LoopStore) :
    deriveIterationCount (store ids) s.rootID s = .ok s.closedCount := by
  show (s.Children s.rootID).map _ = _
  rw [Children_root]
  exact congrArg Except.ok (statsOf_childStats s.rootID s.wisps.rows).count

structure NewestClosed (s : LoopStore) (w : Wisp) : Prop where
  found : s.wisps.find w.id = some w
  closed : w.status = .closed
  newest : ∀ x ∈ s.wisps.rows, x.status = .closed → x.iteration ≤ w.iteration

theorem NewestClosed.eq {x : Wisp} (newest : s.NewestClosed w) (newest' : s.NewestClosed x) : w = x := by
  have le := newest.newest x (KeyedList.mem_of_find newest'.found) newest'.closed
  have ge := newest'.newest w (KeyedList.mem_of_find newest.found) newest.closed
  have at_x := wispAt_of_find newest'.found
  rw [show x.iteration = w.iteration by omega, wispAt_of_find newest.found] at at_x
  exact Option.some.inj at_x

/-- What a list of the children of the root shows. -/
abbrev stats (s : LoopStore) : ChildStats := childStats (s.wisps.rows.map (Wisp.info s.rootID)) s.rootID

theorem highestClosed_cases (s : LoopStore) : s.stats.highestClosed = none ∨
    ∃ w, s.NewestClosed w ∧ s.stats.highestClosed = some (w.info s.rootID) := by
  have greatest := (statsOf_childStats s.rootID s.wisps.rows).closed
  cases best : s.stats.highestClosed with
  | none => exact .inl rfl
  | some info =>
    obtain ⟨w, mem, closed, eq, _, max⟩ := greatest.present info best
    exact .inr ⟨w, ⟨KeyedList.find_key_of_mem mem, closed, max⟩, congrArg some eq⟩

theorem highestClosed_ne_none (found : s.wisps.find w.id = some w) (closed : w.status = .closed) :
    s.stats.highestClosed ≠ none := by
  intro none
  have absent := ((statsOf_childStats s.rootID s.wisps.rows).closed.absent none).2
  exact absent w (KeyedList.mem_of_find found) closed

theorem exists_newestClosed (found : s.wisps.find w.id = some w) (closed : w.status = .closed) :
    ∃ x, s.NewestClosed x := by
  rcases highestClosed_cases s with none | ⟨x, newest, -⟩
  · exact absurd none (highestClosed_ne_none found closed)
  · exact ⟨x, newest⟩

theorem NewestClosed.highestClosed (newest : s.NewestClosed w) :
    s.stats.highestClosed = some (w.info s.rootID) := by
  rcases highestClosed_cases s with none | ⟨x, newest', is⟩
  · exact absurd none (highestClosed_ne_none newest.found newest.closed)
  · rw [is, newest.eq newest']

end LoopStore

end GasCity
