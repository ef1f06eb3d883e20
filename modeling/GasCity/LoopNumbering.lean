import Mathlib.Order.Interval.Finset.Nat
import GasCity.LoopStats

namespace GasCity

open KeyedList Option

/-- A write that names neither the active wisp nor the processed one. -/
def MetaWrite.plain : MetaWrite → Bool
  | .activeWisp _ | .lastProcessedWisp _ => false
  | _ => true

theorem MetaWrite.plain_apply {m : MetaWrite} (plain : m.plain = true) (md : LoopMeta) :
    (m.apply md).activeWisp = md.activeWisp ∧
      (m.apply md).lastProcessedWisp = md.lastProcessedWisp := by
  cases m with
  | activeWisp | lastProcessedWisp => cases plain
  | _ => exact ⟨rfl, rfl⟩

namespace LoopStore

variable {s t u : LoopStore} {x y w : Wisp} {ids : IDSupply} {op : StoreOp} {n k : Nat}

def Dense (s : LoopStore) (k : Nat) : Prop := ∀ n, (s.wispAt n).isSome ↔ 1 ≤ n ∧ n ≤ k

/-- The wisps are numbered without gaps and only the last one may run; a wisp that counts as
processed is closed. -/
structure Numbered (s : LoopStore) : Prop where
  dense : ∃ k, s.Dense k
  serial : ∀ x ∈ s.wisps.rows, ∀ y ∈ s.wisps.rows, x.iteration < y.iteration → x.status = .closed
  processed : ∀ x, s.wisps.find s.metadata.lastProcessedWisp = some x → x.status = .closed
  active : s.metadata.activeWisp = "" ∨ s.metadata.activeWisp ≠ s.rootID

theorem wispAt_of_mem (mem : x ∈ s.wisps.rows) : s.wispAt x.iteration = some x :=
  wispAt_eq_some_iff.mpr ⟨mem, rfl⟩

theorem Dense.mem_le (dense : s.Dense k) (mem : x ∈ s.wisps.rows) : x.iteration ≤ k := by
  have there : (s.wispAt x.iteration).isSome := by
    rw [wispAt_of_mem mem]
    rfl
  exact ((dense x.iteration).mp there).2

theorem closedCount_eq {j : Nat}
    (closed : ∀ n, (∃ x ∈ s.wisps.rows, x.status = .closed ∧ x.iteration = n) ↔ 1 ≤ n ∧ n ≤ j) :
    s.closedCount = j := by
  have nodup : ((s.wisps.rows.filter fun w => decide (w.status = .closed)).map
      fun w => w.iteration).Nodup := s.distinct.sublist (List.filter_sublist.map _)
  have same : ((s.wisps.rows.filter fun w => decide (w.status = .closed)).map
      fun w => w.iteration).toFinset = Finset.Icc 1 j := by
    ext n
    rw [Finset.mem_Icc, ← closed n]
    simp [and_assoc]
  have card := List.toFinset_card_of_nodup nodup
  rw [same, Nat.card_Icc, List.length_map, ← List.countP_eq_length_filter] at card
  unfold closedCount
  omega

theorem Numbered.running_last (numbered : s.Numbered) (dense : s.Dense k)
    (mem : x ∈ s.wisps.rows) (running : x.status ≠ .closed) : x.iteration = k := by
  have le := dense.mem_le mem
  by_contra below
  obtain ⟨y, found⟩ := isSome_iff_exists.mp ((dense k).mpr ⟨by omega, Nat.le_refl k⟩)
  obtain ⟨mem_y, iteration⟩ := wispAt_eq_some_iff.mp found
  exact running (numbered.serial x mem y mem_y (by omega))

theorem Numbered.closedCount_cases (numbered : s.Numbered) (dense : s.Dense k) :
    (s.closedCount = k ∧ ∀ x ∈ s.wisps.rows, x.status = .closed) ∨
      ∃ x, s.wispAt k = some x ∧ x.status ≠ .closed ∧ s.closedCount + 1 = k := by
  by_cases all : ∀ x ∈ s.wisps.rows, x.status = .closed
  · refine .inl ⟨closedCount_eq fun n => ?_, all⟩
    rw [← dense n, isSome_iff_exists]
    constructor
    · rintro ⟨x, mem, _, rfl⟩
      exact ⟨x, wispAt_of_mem mem⟩
    · rintro ⟨x, found⟩
      obtain ⟨mem, iteration⟩ := wispAt_eq_some_iff.mp found
      exact ⟨x, mem, all x mem, iteration⟩
  · push Not at all
    obtain ⟨x, mem, running⟩ := all
    have top := numbered.running_last dense mem running
    have at_k : s.wispAt k = some x := by
      rw [← top]
      exact wispAt_of_mem mem
    have bounds := (dense k).mp (by rw [at_k]; rfl)
    have count : s.closedCount = k - 1 := by
      refine closedCount_eq fun n => ?_
      constructor
      · rintro ⟨y, mem_y, closed, rfl⟩
        have le := dense.mem_le mem_y
        have first := ((dense y.iteration).mp (by rw [wispAt_of_mem mem_y]; rfl)).1
        have other : y.iteration ≠ k := by
          intro same
          have at_y := wispAt_of_mem mem_y
          rw [same, at_k] at at_y
          rw [some.inj at_y] at running
          exact running closed
        omega
      · rintro ⟨first, below⟩
        obtain ⟨y, found⟩ := isSome_iff_exists.mp ((dense n).mpr ⟨first, by omega⟩)
        obtain ⟨mem_y, iteration⟩ := wispAt_eq_some_iff.mp found
        exact ⟨y, mem_y, numbered.serial y mem_y x mem (by omega), iteration⟩
    exact .inr ⟨x, at_k, running, by omega⟩

/-- An iteration that a handler may pour: the one after the closed wisps, after a closed wisp, or
the first. -/
def Successor (s : LoopStore) (n : Nat) : Prop :=
  n = s.closedCount + 1 ∨ (∃ x ∈ s.wisps.rows, x.status = .closed ∧ n = x.iteration + 1) ∨ n = 1

theorem Numbered.successor (numbered : s.Numbered) (dense : s.Dense k) (next : s.Successor n) :
    (s.wispAt n).isSome ∨ n = k + 1 ∧ ∀ x ∈ s.wisps.rows, x.status = .closed := by
  rcases next with rfl | ⟨x, mem, closed, rfl⟩ | rfl
  · rcases numbered.closedCount_cases dense with ⟨count, all⟩ | ⟨x, at_k, _, count⟩
    · exact .inr ⟨by omega, all⟩
    · rw [count, at_k]
      exact .inl rfl
  · have le := dense.mem_le mem
    by_cases below : x.iteration < k
    · exact .inl ((dense _).mpr ⟨by omega, by omega⟩)
    · refine .inr ⟨by omega, fun y mem_y => ?_⟩
      have le_y := dense.mem_le mem_y
      by_cases same : y.iteration = x.iteration
      · have at_y := wispAt_of_mem mem_y
        rw [same, wispAt_of_mem mem] at at_y
        rw [← some.inj at_y]
        exact closed
      · exact numbered.serial y mem_y x mem (by omega)
  · by_cases some_wisp : 1 ≤ k
    · exact .inl ((dense 1).mpr ⟨Nat.le_refl 1, some_wisp⟩)
    · refine .inr ⟨by omega, fun y mem_y => ?_⟩
      have bounds := (dense y.iteration).mp (by rw [wispAt_of_mem mem_y]; rfl)
      omega

inductive Orderly (t : LoopStore) : StoreOp → Prop
  | note (id : String) (m : MetaWrite) : m.plain = true → Orderly t (.setMetadata id m)
  | name (id v : String) : v = "" ∨ v ≠ t.rootID → Orderly t (.setMetadata id (.activeWisp v))
  | mark (id v : String) (x : Wisp) : t.wisps.find v = some x → x.status = .closed →
      t.lastIteration ≤ x.iteration → Orderly t (.setMetadata id (.lastProcessedWisp v))
  | remark (id : String) :
      Orderly t (.setMetadata id (.lastProcessedWisp t.metadata.lastProcessedWisp))
  | pour (id : String) (n : Nat) (args : PourArgs) : t.Successor n →
      Orderly t (.pourWisp id (IdempotencyKey t.rootID n) args)
  | pourAhead (id : String) (n : Nat) (args : PourArgs) : t.Successor n →
      Orderly t (.pourSpeculativeWisp id (IdempotencyKey t.rootID n) args)
  | burn (x : Wisp) : t.wisps.find x.id = some x → x.status ≠ .closed → x.live = false →
      Orderly t (.deleteBead x.id)
  | activate (id : String) : Orderly t (.activateWisp id)
  | close (id : String) (reason : CloseReason) : Orderly t (.closeBead id reason)

theorem lastIteration_of_find
    (same : t.wisps.find t.metadata.lastProcessedWisp = s.wisps.find s.metadata.lastProcessedWisp) :
    t.lastIteration = s.lastIteration := by
  unfold lastIteration
  rw [same]

theorem closeOne_closed (id : String) (w : Wisp) (closed : w.status = .closed) :
    (closeOne id w).status = .closed := by
  unfold closeOne
  split
  next => rfl
  next => exact closed

theorem publishOne_status (id : String) (w : Wisp) : (publishOne id w).status = w.status := by
  unfold publishOne
  split <;> rfl

theorem Numbered.mapWisps (numbered : s.Numbered) (f : Wisp → Wisp) (id : ∀ w, (f w).id = w.id)
    (iteration : ∀ w, (f w).iteration = w.iteration)
    (closed : ∀ w, w.status = .closed → (f w).status = .closed) :
    (s.mapWisps f id iteration).Numbered ∧
      (s.mapWisps f id iteration).lastIteration = s.lastIteration := by
  have at_n : ∀ n, (s.mapWisps f id iteration).wispAt n = (s.wispAt n).map f :=
    find_mapRows s.byIteration f iteration
  have at_id : ∀ j, (s.mapWisps f id iteration).wisps.find j = (s.wisps.find j).map f :=
    find_mapRows s.wisps f id
  refine ⟨⟨?_, ?_, ?_, numbered.active⟩, ?_⟩
  · obtain ⟨k, dense⟩ := numbered.dense
    refine ⟨k, fun n => ?_⟩
    rw [at_n, isSome_map]
    exact dense n
  · intro x mem y mem_y before
    obtain ⟨v, old, rfl⟩ := List.mem_map.mp mem
    obtain ⟨v', old', rfl⟩ := List.mem_map.mp mem_y
    rw [iteration, iteration] at before
    exact closed v (numbered.serial v old v' old' before)
  · intro x found
    rw [at_id] at found
    obtain ⟨v, old, rfl⟩ := map_eq_some_iff.mp found
    exact closed v (numbered.processed v old)
  · unfold lastIteration
    rw [at_id, map_map]
    congr 2
    funext v
    exact iteration v

theorem Numbered.drop (numbered : s.Numbered) (found : s.wisps.find x.id = some x)
    (running : x.status ≠ .closed) :
    (s.drop x.id).Numbered ∧ (s.drop x.id).lastIteration = s.lastIteration := by
  have last : (s.drop x.id).wisps.find s.metadata.lastProcessedWisp =
      s.wisps.find s.metadata.lastProcessedWisp := by
    show (s.wisps.erase x.id).find _ = _
    rw [find_erase]
    split
    next same => exact absurd (numbered.processed x (by rw [same]; exact found)) running
    next => rfl
  refine ⟨⟨?_, ?_, ?_, numbered.active⟩, lastIteration_of_find last⟩
  · obtain ⟨k, dense⟩ := numbered.dense
    have top := numbered.running_last dense (mem_of_find found) running
    refine ⟨k - 1, fun n => ?_⟩
    by_cases same : n = x.iteration
    · subst same
      rw [wispAt_drop_self (wispAt_of_find found)]
      simp only [isSome_none, Bool.false_eq_true, false_iff]
      omega
    · rw [wispAt_drop_of_ne found same, dense n]
      omega
  · intro y mem z mem_z before
    exact numbered.serial y (List.mem_of_mem_filter mem) z (List.mem_of_mem_filter mem_z) before
  · intro y at_last
    rw [show (s.drop x.id).metadata = s.metadata from rfl, last] at at_last
    exact numbered.processed y at_last

theorem Numbered.pour (numbered : s.Numbered) (next : s.Successor n) (live : Bool) :
    (s.pour ids n live).2.Numbered ∧ (s.pour ids n live).2.lastIteration = s.lastIteration := by
  have poured := pour_spec ids s n live
  obtain ⟨rootID, _, _, metadata, others, y, at_n, _, origin⟩ := pour_spec ids s n live
  have last : (s.pour ids n live).2.wisps.find (s.pour ids n live).2.metadata.lastProcessedWisp =
      s.wisps.find s.metadata.lastProcessedWisp := by
    rw [metadata]
    exact poured.find_mentioned (by simp [mentioned])
  rcases origin with same | ⟨free, _, _, _⟩
  · rw [same]
    exact ⟨numbered, rfl⟩
  · obtain ⟨k, dense⟩ := numbered.dense
    have fresh : n = k + 1 ∧ ∀ x ∈ s.wisps.rows, x.status = .closed := by
      rcases numbered.successor dense next with there | fresh
      · rw [free] at there
        cases there
      · exact fresh
    have old : ∀ x ∈ (s.pour ids n live).2.wisps.rows, x.iteration ≠ n → x ∈ s.wisps.rows := by
      intro x mem other
      have found := wispAt_of_mem mem
      rw [others _ other] at found
      exact (wispAt_eq_some_iff.mp found).1
    refine ⟨⟨⟨k + 1, fun i => ?_⟩, ?_, ?_, ?_⟩, lastIteration_of_find last⟩
    · by_cases new : i = n
      · rw [new, at_n]
        simp only [isSome_some, true_iff]
        omega
      · rw [others i new, dense i]
        omega
    · intro x mem z mem_z before
      by_cases new : x.iteration = n
      · have le : z.iteration ≤ n := by
          by_cases new_z : z.iteration = n
          · omega
          · have := dense.mem_le (old z mem_z new_z)
            omega
        omega
      · exact fresh.2 x (old x mem new)
    · intro x found
      rw [last] at found
      exact numbered.processed x found
    · rw [metadata, rootID]
      exact numbered.active

theorem Numbered.note {id : String} {m : MetaWrite} (numbered : t.Numbered)
    (orderly : Orderly t (.setMetadata id m)) :
    (t.note m).Numbered ∧ t.lastIteration ≤ (t.note m).lastIteration := by
  cases orderly with
  | note _ _ plain =>
    obtain ⟨active, last⟩ := MetaWrite.plain_apply plain t.metadata
    refine ⟨⟨numbered.dense, numbered.serial, ?_, ?_⟩, ?_⟩
    · show ∀ x, t.wisps.find (m.apply t.metadata).lastProcessedWisp = some x → _
      rw [last]
      exact numbered.processed
    · show (m.apply t.metadata).activeWisp = "" ∨ (m.apply t.metadata).activeWisp ≠ t.rootID
      rw [active]
      exact numbered.active
    · refine Nat.le_of_eq (lastIteration_of_find ?_).symm
      show t.wisps.find (m.apply t.metadata).lastProcessedWisp = _
      rw [last]
  | name _ v known =>
    exact ⟨{ numbered with active := known }, Nat.le_refl _⟩
  | mark _ v x found closed later =>
    refine ⟨{ numbered with processed := ?_ }, ?_⟩
    · intro y found'
      cases some.inj (found.symm.trans found')
      exact closed
    · show t.lastIteration ≤ ((t.wisps.find v).map (fun w => w.iteration)).getD 0
      rw [found]
      exact later
  | remark => exact ⟨{ numbered with }, Nat.le_refl _⟩

theorem Numbered.step (numbered : t.Numbered) (orderly : Orderly t op) (effect : Effect ids t op u) :
    u.Numbered ∧ t.lastIteration ≤ u.lastIteration := by
  have still {u : LoopStore} (kept : u.Numbered ∧ u.lastIteration = t.lastIteration) :
      u.Numbered ∧ t.lastIteration ≤ u.lastIteration := ⟨kept.1, kept.2.ge⟩
  cases effect with
  | refused => exact ⟨numbered, Nat.le_refl _⟩
  | closeRoot => exact ⟨{ numbered with }, Nat.le_refl _⟩
  | closeWisp w => exact still (numbered.mapWisps _ _ _ (closeOne_closed w.id))
  | publish w =>
    exact still (numbered.mapWisps _ _ _ fun v closed => (publishOne_status w.id v).trans closed)
  | drop w found =>
    generalize same : StoreOp.deleteBead w.id = op at orderly
    cases orderly with
    | burn x found' running =>
      have id : w.id = x.id := StoreOp.deleteBead.inj same
      rw [id] at found ⊢
      exact still (numbered.drop found' running)
    | _ => cases same
  | pour n args =>
    generalize same : StoreOp.pourWisp t.rootID (IdempotencyKey t.rootID n) args = op at orderly
    cases orderly with
    | pour id n' args' next =>
      simp only [StoreOp.pourWisp.injEq, IdempotencyKey, WispKey.wisp.injEq] at same
      cases some.inj same.2.1.2
      exact still (numbered.pour next true)
    | _ => cases same
  | pourAhead n args =>
    generalize same :
      StoreOp.pourSpeculativeWisp t.rootID (IdempotencyKey t.rootID n) args = op at orderly
    cases orderly with
    | pourAhead id n' args' next =>
      simp only [StoreOp.pourSpeculativeWisp.injEq, IdempotencyKey, WispKey.wisp.injEq] at same
      cases some.inj same.2.1.2
      exact still (numbered.pour next false)
    | _ => cases same
  | create => cases orderly
  | note m => exact numbered.note orderly

end LoopStore

end GasCity
