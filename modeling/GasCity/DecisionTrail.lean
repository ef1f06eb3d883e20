import GasCity.DecisionMoves

namespace GasCity

open KeyedList

abbrev Audits := KeyedList (fun a : TransitionAudit => (a.decisionID, a.recordRevision))

/-- The audits of a record tell how it got where it is: they are numbered up to its revision, start
at proposed, and each takes up where the one before left off. -/
structure Trail (m : Audits) (r : DecisionRecord) : Prop where
  started : 1 ≤ r.recordRevision
  numbered : ∀ n, (m.find (r.id, n)).isSome = true ↔ 1 ≤ n ∧ n ≤ r.recordRevision
  opened : ∀ a, m.find (r.id, 1) = some a → a.source = none ∧ a.target = .proposed
  chained : ∀ n a b, m.find (r.id, n) = some a → m.find (r.id, n + 1) = some b →
    b.source = some a.target ∧ a.storeRevision < b.storeRevision ∧
      (a.target.isAllowedTransition b.target = true ∨ (r.isLocal = true ∧ n = 1 ∧
        a.target = .proposed ∧ (b.target = .admitted ∨ b.target = .refusedAfterRace)))
  ends : ∀ a, m.find (r.id, r.recordRevision) = some a →
    a.target = r.state ∧ a.storeRevision = r.storeRevision

/-- The moves of a lifecycle: those of the table, and from proposed in the local lane. -/
def DecisionRecord.MayMove (r : DecisionRecord) (state : DecisionState) : Prop :=
  r.state.isAllowedTransition state = true ∨
    (r.isLocal = true ∧ r.recordRevision = 1 ∧ r.state = .proposed ∧
      (state = .admitted ∨ state = .refusedAfterRace))

structure StampedApart (m : Audits) (storeRevision : Nat) : Prop where
  positive : ∀ a ∈ m.rows, 1 ≤ a.storeRevision
  bounded : ∀ a ∈ m.rows, a.storeRevision ≤ storeRevision
  apart : ∀ a ∈ m.rows, ∀ b ∈ m.rows, a.storeRevision = b.storeRevision → a = b

namespace Trail

variable {m m' : Audits} {r old new : DecisionRecord}

theorem congr (trail : Trail m r) (same : ∀ n, m'.find (r.id, n) = m.find (r.id, n)) :
    Trail m' r := by
  refine ⟨trail.started, fun n => ?_, fun a => ?_, fun n a b => ?_, fun a => ?_⟩
  · rw [same]
    exact trail.numbered n
  · rw [same]
    exact trail.opened a
  · rw [same, same]
    exact trail.chained n a b
  · rw [same]
    exact trail.ends a

theorem start (missing : ∀ n, m.find (r.id, n) = none) (state : r.state = .proposed)
    (first : r.recordRevision = 1) {a : TransitionAudit} (ofRecord : a.decisionID = r.id)
    (one : a.recordRevision = 1) (source : a.source = none) (target : a.target = .proposed)
    (stamp : a.storeRevision = r.storeRevision) : Trail (m.set a) r := by
  have found : ∀ n, (m.set a).find (r.id, n) = if n = 1 then some a else none := by
    intro n
    rw [find_set, ofRecord, one, missing]
    simp
  refine ⟨by omega, fun n => ?_, fun b => ?_, fun n b d => ?_, fun b => ?_⟩
  · rw [found]
    split <;> simp <;> omega
  · rw [found]
    rintro ⟨⟩
    exact ⟨source, target⟩
  · rw [found, found]
    split <;> split <;> intro h h' <;> first | omega | contradiction
  · rw [found, first]
    rintro ⟨⟩
    exact ⟨target.trans state.symm, stamp⟩

theorem advance (trail : Trail m old) (same : new.id = old.id) (lane : new.isLocal = old.isLocal)
    (next : new.recordRevision = old.recordRevision + 1)
    (later : old.storeRevision < new.storeRevision) (mayMove : old.MayMove new.state)
    (time : ZonedTime) (reason : String) : Trail (m.set (new.leaving old.state time reason)) new := by
  have found : ∀ n, (m.set (new.leaving old.state time reason)).find (new.id, n) =
      if n = old.recordRevision + 1 then some (new.leaving old.state time reason)
      else m.find (old.id, n) := by
    intro n
    rw [← same, ← next]
    simp [DecisionRecord.leaving]
  have started := trail.started
  have beyond : ∀ n, old.recordRevision < n → m.find (old.id, n) = none := by
    intro n past
    have := trail.numbered n
    cases there : m.find (old.id, n) with
    | none => rfl
    | some a =>
      rw [there] at this
      simp at this
      omega
  refine ⟨by omega, fun n => ?_, fun a => ?_, fun n a b => ?_, fun a => ?_⟩
  · rw [found, next]
    split
    next top => simp [top]
    next below =>
      rw [trail.numbered n]
      omega
  · rw [found, if_neg (by omega)]
    exact trail.opened a
  · rw [found, found]
    intro first second
    split at second
    next top =>
      have top : n = old.recordRevision := by omega
      subst top
      rw [if_neg (by omega)] at first
      cases second
      obtain ⟨state, stamp⟩ := trail.ends a first
      refine ⟨congrArg some state.symm, by rw [stamp]; exact later, ?_⟩
      rw [state]
      rcases mayMove with allowed | ⟨ofLane, one, proposed, target⟩
      · exact .inl allowed
      · exact .inr ⟨lane.trans ofLane, one, proposed, target⟩
    next =>
      split at first
      next top =>
        rw [beyond _ (by omega)] at second
        cases second
      next =>
        obtain ⟨source, stamp, edge⟩ := trail.chained n a b first second
        refine ⟨source, stamp, edge.imp_right ?_⟩
        rintro ⟨ofLane, rest⟩
        exact ⟨lane.trans ofLane, rest⟩
  · rw [found, next, if_pos rfl]
    rintro ⟨⟩
    exact ⟨rfl, rfl⟩

end Trail

namespace StampedApart

variable {m : Audits} {storeRevision : Nat}

theorem set (stamped : StampedApart m storeRevision) {a : TransitionAudit}
    (stamp : a.storeRevision = storeRevision + 1) : StampedApart (m.set a) (storeRevision + 1) := by
  refine ⟨fun b mem => ?_, fun b mem => ?_, fun b memB d memD same => ?_⟩
  · rcases mem_set.mp mem with rfl | ⟨mem, -⟩
    · omega
    · exact stamped.positive b mem
  · rcases mem_set.mp mem with rfl | ⟨mem, -⟩
    · omega
    · exact Nat.le_succ_of_le (stamped.bounded b mem)
  · rcases mem_set.mp memB with rfl | ⟨inB, -⟩ <;>
      rcases mem_set.mp memD with rfl | ⟨inD, -⟩
    · rfl
    · have := stamped.bounded d inD
      omega
    · have := stamped.bounded b inB
      omega
    · exact stamped.apart b inB d inD same

theorem keep (stamped : StampedApart m storeRevision) (p : TransitionAudit → Bool) :
    StampedApart (m.keep p) (storeRevision + 1) := by
  refine ⟨fun b mem => ?_, fun b mem => ?_, fun b memB d memD => ?_⟩
  · exact stamped.positive b (List.mem_of_mem_filter mem)
  · exact Nat.le_succ_of_le (stamped.bounded b (List.mem_of_mem_filter mem))
  · exact stamped.apart b (List.mem_of_mem_filter memB) d (List.mem_of_mem_filter memD)

end StampedApart

end GasCity
