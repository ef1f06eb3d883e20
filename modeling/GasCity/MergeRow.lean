import GasCity.Reconcile
import GasCity.KeyedFold

namespace GasCity

namespace RowState

variable (r : RowState)

abbrev recent (now : Time) : Prop := recentLocalMutation r.localAt now = true

/-- The absorb loop leaves the row alone: it is fenced, or a recent local write disagrees with
the snapshot row. -/
def absorbHeld (fresh : Bead) (startSeq : Nat) (now : Time) : Prop :=
  r.fenced startSeq ∨ r.recent now ∧ ∃ cached ∈ r.bead, beadChanged cached fresh true = true

def evictHeld (cached : Bead) (reserved startSeq : Nat) (now : Time) : Prop :=
  r.fenced startSeq ∨ cached.status ≠ "closed" ∧ r.recent now ∨
    0 < reserved ∧ (r.beadSeq.getD 0 ≠ 0 ∨ r.deletedSeq.getD 0 ≠ 0 ∨ r.localAt ≠ 0)

def sweepHeld (reserved startSeq : Nat) (now : Time) : Prop :=
  r.fenced startSeq ∨ r.recent now ∨ 0 < reserved

instance (r : RowState) (fresh : Bead) (startSeq : Nat) (now : Time) :
    Decidable (r.absorbHeld fresh startSeq now) :=
  inferInstanceAs (Decidable (_ ∨ _ ∧ ∃ cached ∈ r.bead, _))

instance (r : RowState) (cached : Bead) (reserved startSeq : Nat) (now : Time) :
    Decidable (r.evictHeld cached reserved startSeq now) :=
  inferInstanceAs (Decidable (_ ∨ _ ∨ _))

instance (r : RowState) (reserved startSeq : Nat) (now : Time) :
    Decidable (r.sweepHeld reserved startSeq now) :=
  inferInstanceAs (Decidable (_ ∨ _ ∨ _))

end RowState

def mergeAbsorbOpts (freshDeps : List Dep) : AbsorbOpts where
  depsMode := .depsExplicit
  deps := freshDeps
  seqMode := .seqClearGuarded
  readyMode := .readyFromFresh
  clearDirty := true

def absorbNotification (r : RowState) (fresh : Bead) (freshDeps : List Dep) : Option EventType :=
  match r.bead with
  | none => some .beadCreated
  | some cached =>
    if beadChanged cached fresh true = true ∨ depsChanged r.depsOf freshDeps = true then
      some .beadUpdated
    else none

def evictNotification (cached : Bead) : Option EventType :=
  if cached.status ≠ "closed" then some .beadClosed else none

theorem closedPayload_id (confirmedClosed : BeadMap) (cached : Bead) :
    (closedPayload confirmedClosed cached).id = cached.id := by
  unfold closedPayload
  cases found : confirmedClosed.find cached.id with
  | none => rfl
  | some closed => exact KeyedList.key_of_find found

variable {r : RowState}

theorem absorb_decision_of_held {fresh : Bead} {freshDeps : List Dep} {startSeq : Nat} {now : Time}
    (held : r.absorbHeld fresh startSeq now) :
    (reconcileMergeDecision (absorbInput r fresh freshDeps startSeq now)).action ≠ .mergeAbsorb := by
  unfold reconcileMergeDecision absorbInput
  by_cases fenced : r.fenced startSeq
  · rw [if_pos fenced]
    simp
  · rw [if_neg fenced]
    obtain ⟨recent, cached, some, changed⟩ := held.resolve_left fenced
    rw [Option.mem_def] at some
    simp [some, changed, recent]

theorem absorb_decision_of_not_held {fresh : Bead} {freshDeps : List Dep} {startSeq : Nat} {now : Time}
    (free : ¬ r.absorbHeld fresh startSeq now) :
    reconcileMergeDecision (absorbInput r fresh freshDeps startSeq now) =
      { action := .mergeAbsorb, notification := absorbNotification r fresh freshDeps } := by
  have fenced : ¬ r.fenced startSeq := fun h => free (.inl h)
  unfold reconcileMergeDecision absorbInput absorbNotification
  rw [if_neg fenced]
  cases cached : r.bead with
  | none => simp
  | some old =>
    have keep : ¬ (recentLocalMutation r.localAt now = true ∧ beadChanged old fresh true = true) :=
      fun h => free (.inr ⟨h.1, old, cached, h.2⟩)
    simp only [Option.isSome_some, Option.getD_some, true_and, keep, if_false, Bool.not_true,
      Bool.false_eq_true]
    by_cases changed : beadChanged old fresh true = true <;> simp [changed]

theorem evict_decision_of_held {cached : Bead} {startSeq : Nat} {now : Time}
    (held : r.fenced startSeq ∨ cached.status ≠ "closed" ∧ r.recent now) :
    (reconcileMergeDecision (evictInput r cached startSeq now)).action ≠ .mergeEvict := by
  unfold reconcileMergeDecision evictInput
  rw [if_neg (by simp)]
  by_cases fenced : r.fenced startSeq
  · rw [if_pos fenced]
    simp
  · rw [if_neg fenced, if_pos (held.resolve_left fenced)]
    simp

theorem evict_decision_of_not_held {cached : Bead} {startSeq : Nat} {now : Time}
    (free : ¬ (r.fenced startSeq ∨ cached.status ≠ "closed" ∧ r.recent now)) :
    reconcileMergeDecision (evictInput r cached startSeq now) =
      { action := .mergeEvict, notification := evictNotification cached } := by
  unfold reconcileMergeDecision evictInput
  rw [if_neg (by simp), if_neg (fun h => free (.inl h)),
    if_neg (fun h => free (.inr h))]
  rfl

theorem gc_action_iff {startSeq : Nat} {now : Time} :
    (reconcileMergeDecision (gcInput r startSeq now)).action = .mergeGCFences ↔
      ¬ (r.fenced startSeq ∨ r.recent now) := by
  unfold reconcileMergeDecision gcInput
  by_cases fenced : startSeq < r.deletedSeq.getD 0 ∨ startSeq < r.beadSeq.getD 0
  · simp [fenced]
  · by_cases keep : recentLocalMutation r.localAt now = true <;> simp [fenced, keep]

def mergeDeps (g : Globals) (snap : Snapshot) (r : RowState) (fresh : Bead) : List Dep :=
  depsForReconcile g.bdBacking r.deps fresh snap.depMap snap.useFreshDeps

section

variable (g : Globals) (snap : Snapshot) (startSeq : Nat) (now : Time)

variable (fresh : Bead)

def mergeAbsorbRow (r : RowState) : RowState :=
  if r.absorbHeld fresh startSeq now then r
  else r.absorb g.reservedMutations fresh now (mergeAbsorbOpts (mergeDeps g snap r fresh))

def mergeEvictRow (cached : Bead) (r : RowState) : RowState :=
  if (snap.freshByID.find cached.id).isSome ∨ r.evictHeld cached g.reservedMutations startSeq now
  then r else {}

def sweepRow (r : RowState) : RowState :=
  if r.sweepHeld g.reservedMutations startSeq now then r
  else { bead := r.bead, readyLost := r.readyLost }

/-- One pass on one row: absorbed when the snapshot has it, evicted when only the cache has it,
swept when neither has. -/
def mergeRow (fresh : Option Bead) (r : RowState) : RowState :=
  match fresh, r.bead with
  | some b, _ => mergeAbsorbRow g snap startSeq now b r
  | none, some cached => if r.evictHeld cached g.reservedMutations startSeq now then r else {}
  | none, none => sweepRow g startSeq now r

def absorbDegrades (r : RowState) : Bool :=
  (reconcileMergeDecision
    (absorbInput r fresh (mergeDeps g snap r fresh) startSeq now)).degradeDepsComplete

def absorbResult (r : RowState) (res : MergeSectionResult) : MergeSectionResult :=
  if r.absorbHeld fresh startSeq now then res
  else res.noteFresh (absorbNotification r fresh (mergeDeps g snap r fresh)) fresh

def evictResult (cached : Bead) (r : RowState) (res : MergeSectionResult) : MergeSectionResult :=
  if (snap.freshByID.find cached.id).isSome ∨ r.evictHeld cached g.reservedMutations startSeq now
  then res
  else res.noteEvicted (evictNotification cached) (closedPayload snap.confirmedClosed cached)

theorem absorbLoopBody_spec (p : MergePass) (globals : p.cache.globals = g) :
    (absorbLoopBody snap startSeq now fresh p).cache.globals = g ∧
      (∀ j, (absorbLoopBody snap startSeq now fresh p).cache.row j =
        if j = fresh.id then mergeAbsorbRow g snap startSeq now fresh (p.cache.row j)
        else p.cache.row j) ∧
      (absorbLoopBody snap startSeq now fresh p).res =
        absorbResult g snap startSeq now fresh (p.cache.row fresh.id) p.res ∧
      (absorbLoopBody snap startSeq now fresh p).nextDepsComplete =
        (p.nextDepsComplete && !absorbDegrades g snap startSeq now fresh (p.cache.row fresh.id)) := by
  have reserved : p.cache.reservedMutations = g.reservedMutations := by rw [← globals]; rfl
  have deps : p.cache.depsForReconcileLocked fresh snap.depMap snap.useFreshDeps =
      mergeDeps g snap (p.cache.row fresh.id) fresh := by rw [← globals]; rfl
  have degrade : ∀ a b : Bool, (if a = true then false else b) = (b && !a) := by decide
  unfold absorbLoopBody mergeAbsorbRow absorbResult absorbDegrades
  rw [deps]
  dsimp only
  by_cases held : (p.cache.row fresh.id).absorbHeld fresh startSeq now
  · rw [if_pos (absorb_decision_of_held held)]
    refine ⟨globals, fun j => ?_, by rw [if_pos held], degrade _ _⟩
    by_cases h : j = fresh.id <;> simp [h, held]
  · rw [absorb_decision_of_not_held held, if_neg (by simp)]
    obtain ⟨rows, globals', -, -⟩ := p.cache.absorbFreshLocked_spec fresh now
      (mergeAbsorbOpts (mergeDeps g snap (p.cache.row fresh.id) fresh))
    refine ⟨globals'.trans globals, fun j => (rows j).trans ?_, by rw [if_neg held], by simp⟩
    by_cases h : j = fresh.id <;> simp [h, held, reserved]

theorem evictLoopBody_spec (cached : Bead) (p : MergePass) (globals : p.cache.globals = g) :
    (evictLoopBody snap startSeq now cached p).cache.globals = g ∧
      (∀ j, (evictLoopBody snap startSeq now cached p).cache.row j =
        if j = cached.id then mergeEvictRow g snap startSeq now cached (p.cache.row j)
        else p.cache.row j) ∧
      (evictLoopBody snap startSeq now cached p).res =
        evictResult g snap startSeq now cached (p.cache.row cached.id) p.res ∧
      (evictLoopBody snap startSeq now cached p).nextDepsComplete = p.nextDepsComplete := by
  have reserved : p.cache.reservedMutations = g.reservedMutations := by rw [← globals]; rfl
  by_cases keep : (snap.freshByID.find cached.id).isSome ∨
      (p.cache.row cached.id).evictHeld cached g.reservedMutations startSeq now
  · have same : evictLoopBody snap startSeq now cached p = p := by
      unfold evictLoopBody
      by_cases present : (snap.freshByID.find cached.id).isSome
      · rw [if_pos present]
      · rw [if_neg present]
        have held := keep.resolve_left present
        by_cases skip : (p.cache.row cached.id).fenced startSeq ∨
            cached.status ≠ "closed" ∧ (p.cache.row cached.id).recent now
        · exact if_pos (evict_decision_of_held skip)
        · have guarded := (or_assoc.mpr held).resolve_left skip
          rw [← reserved] at guarded
          rw [evict_decision_of_not_held skip]
          exact if_pos guarded
    rw [same]
    refine ⟨globals, fun j => ?_, by rw [evictResult, if_pos keep], rfl⟩
    split
    next h => rw [h, mergeEvictRow, if_pos keep]
    next => rfl
  · have absent : ¬ (snap.freshByID.find cached.id).isSome := fun h => keep (.inl h)
    have free : ¬ ((p.cache.row cached.id).fenced startSeq ∨
        cached.status ≠ "closed" ∧ (p.cache.row cached.id).recent now) :=
      fun h => keep (.inr (or_assoc.mp (.inl h)))
    have unguarded : ¬ (0 < p.cache.reservedMutations ∧
        (p.cache.beadSeqOf cached.id ≠ 0 ∨ p.cache.deletedSeqOf cached.id ≠ 0 ∨
          p.cache.localBeadAtOf cached.id ≠ 0)) := by
      rw [reserved]
      exact fun h => keep (.inr (.inr (.inr h)))
    have gone : evictLoopBody snap startSeq now cached p =
        { p with
          res := p.res.noteEvicted (evictNotification cached)
            (closedPayload snap.confirmedClosed cached)
          cache := p.cache.evictLocked cached.id } := by
      unfold evictLoopBody
      rw [if_neg absent, evict_decision_of_not_held free]
      rw [if_neg (by simp), if_neg unguarded]
    rw [gone]
    refine ⟨globals, fun j => (p.cache.row_evictLocked cached.id j).trans ?_,
      by rw [evictResult, if_neg keep], rfl⟩
    split
    next h => rw [h, mergeEvictRow, if_neg keep]
    next => rfl

theorem gcLoopBody_spec (id : String) (c : CachingStore) (reserved : g.reservedMutations = 0) :
    (gcLoopBody startSeq now id c).globals = c.globals ∧
      ∀ j, (gcLoopBody startSeq now id c).row j =
        if j = id then sweepRow g startSeq now (c.row j) else c.row j := by
  unfold gcLoopBody
  by_cases held : (c.row id).fenced startSeq ∨ (c.row id).recent now
  · rw [if_pos (fun h => gc_action_iff.mp h held)]
    refine ⟨rfl, fun j => ?_⟩
    split
    next h =>
      subst h
      exact (if_pos (or_assoc.mp (.inl held))).symm
    next => rfl
  · rw [if_neg (by simpa using gc_action_iff.mpr held)]
    refine ⟨rfl, fun j => ?_⟩
    by_cases h : j = id
    · subst h
      have : ¬ (c.row j).sweepHeld g.reservedMutations startSeq now :=
        fun swept => (or_assoc.mpr swept).elim held (by omega)
      simp only [if_true, sweepRow, this, if_false]
      simp [CachingStore.row]
    · simp [CachingStore.row, h]

end

end GasCity
