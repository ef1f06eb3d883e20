import GasCity.CachingStore

namespace GasCity

/-- Everything the cache holds under one id, across its seven per-row maps. -/
structure RowState where
  bead : Option Bead := none
  deps : Option (List Dep) := none
  dirty : Option Unit := none
  beadSeq : Option Nat := none
  localBeadAt : Option Time := none
  deletedSeq : Option Nat := none
  readyLost : Option Unit := none

/-- What the cache holds once, not per row, apart from the observation stamp. -/
structure Globals where
  ownsBeadID : String → Bool
  bdBacking : Bool
  depsComplete : Bool
  state : CacheState
  mutationSeq : Nat
  reservedMutations : Nat
  primePartialErr : Option String
  readyProjectionDegraded : Bool
  syncFailures : Nat

namespace CachingStore

def globals (c : CachingStore) : Globals where
  ownsBeadID := c.ownsBeadID
  bdBacking := c.bdBacking
  depsComplete := c.depsComplete
  state := c.state
  mutationSeq := c.mutationSeq
  reservedMutations := c.reservedMutations
  primePartialErr := c.primePartialErr
  readyProjectionDegraded := c.readyProjectionDegraded
  syncFailures := c.syncFailures

def row (c : CachingStore) (id : String) : RowState where
  bead := c.beads.find id
  deps := c.deps.lookup id
  dirty := c.dirty.lookup id
  beadSeq := c.beadSeq.lookup id
  localBeadAt := c.localBeadAt.lookup id
  deletedSeq := c.deletedSeq.lookup id
  readyLost := c.readyProjectionLost.lookup id

end CachingStore

namespace RowState

variable (r : RowState)

def depsOf : List Dep := r.deps.getD []

def localAt : Time := r.localBeadAt.getD 0

abbrev fenced (startSeq : Nat) : Prop :=
  startSeq < r.deletedSeq.getD 0 ∨ startSeq < r.beadSeq.getD 0

def cachedVerdict : Option Bool := r.bead.bind Bead.isBlocked

variable (bead : Bead) (opts : AbsorbOpts)

def keepsVerdict : Prop :=
  bead.isBlocked = none ∧ r.cachedVerdict ≠ none ∧
    opts.readyMode = .readyPreserveWhenDepsUnchanged ∧
    depsChanged r.depsOf (effectiveAbsorbDeps r.depsOf bead opts) = false

instance (r : RowState) (bead : Bead) (opts : AbsorbOpts) : Decidable (r.keepsVerdict bead opts) :=
  inferInstanceAs (Decidable (_ ∧ _))

def absorbedBead : Bead :=
  if r.keepsVerdict bead opts then { bead with isBlocked := r.cachedVerdict } else bead

def absorbedLost : Option Unit :=
  if bead.isBlocked ≠ none ∨ r.keepsVerdict bead opts then none
  else if r.cachedVerdict = none then r.readyLost
  else some ()

def absorbedDeps : Option (List Dep) :=
  match opts.depsMode with
  | .depsExplicit => some opts.deps
  | .depsFromFields => some (depsFromBeadFields bead)
  | .depsFromFieldsIfCarried =>
    if beadCarriesDependencyFields bead then some (depsFromBeadFields bead) else r.deps
  | .depsKeepCached => r.deps
  | .depsDrop => none

def clearsStamp (reserved : Nat) (now : Time) (mode : AbsorbSeqMode) : Prop :=
  mode = .seqClearGuarded ∧ reserved = 0 ∧ recentLocalMutation r.localAt now = false

instance (r : RowState) (reserved : Nat) (now : Time) (mode : AbsorbSeqMode) :
    Decidable (r.clearsStamp reserved now mode) :=
  inferInstanceAs (Decidable (_ ∧ _))

def absorb (reserved : Nat) (bead : Bead) (now : Time) (opts : AbsorbOpts) :
    RowState where
  bead := some (r.absorbedBead bead opts)
  deps := r.absorbedDeps bead opts
  dirty := if opts.clearDirty then none else r.dirty
  beadSeq :=
    if r.clearsStamp reserved now opts.seqMode ∨ opts.seqMode = .seqClearBeadSeqOnly then none
    else r.beadSeq
  localBeadAt := if r.clearsStamp reserved now opts.seqMode then none else r.localBeadAt
  deletedSeq := none
  readyLost := r.absorbedLost bead opts

theorem absorbedBead_id : (r.absorbedBead bead opts).id = bead.id := by
  unfold absorbedBead
  split <;> rfl

theorem absorbedDeps_absorbedBead (r r' : RowState) (bead : Bead) (opts : AbsorbOpts) :
    r'.absorbedDeps (r.absorbedBead bead opts) opts = r'.absorbedDeps bead opts := by
  unfold absorbedBead
  split <;> rfl

end RowState

namespace CachingStore

open RowState

variable (c : CachingStore) (id : String)

@[simp] theorem row_bead : (c.row id).bead = c.beads.find id := rfl

@[simp] theorem row_deps : (c.row id).deps = c.deps.lookup id := rfl

@[simp] theorem row_dirty : (c.row id).dirty = c.dirty.lookup id := rfl

@[simp] theorem row_beadSeq : (c.row id).beadSeq = c.beadSeq.lookup id := rfl

@[simp] theorem row_localBeadAt : (c.row id).localBeadAt = c.localBeadAt.lookup id := rfl

@[simp] theorem row_deletedSeq : (c.row id).deletedSeq = c.deletedSeq.lookup id := rfl

@[simp] theorem row_readyLost : (c.row id).readyLost = c.readyProjectionLost.lookup id := rfl

@[simp] theorem row_depsOf : (c.row id).depsOf = c.depsOf id := rfl

@[simp] theorem row_localAt : (c.row id).localAt = c.localBeadAtOf id := rfl

@[simp] theorem row_advanceObservationLocked :
    c.advanceObservationLocked.row id = c.row id := rfl

@[simp] theorem globals_advanceObservationLocked :
    c.advanceObservationLocked.globals = c.globals := rfl

@[simp] theorem globals_evictLocked : (c.evictLocked id).globals = c.globals := rfl

theorem row_evictLocked (id j : String) :
    (c.evictLocked id).row j = if j = id then {} else c.row j := by
  by_cases h : j = id <;> simp [evictLocked, row, advanceObservationLocked, h]

variable (bead : Bead) (opts : AbsorbOpts)

theorem absorbReadyProjectionLocked_eq :
    (c.absorbReadyProjectionLocked bead opts).2 = (c.row bead.id).absorbedBead bead opts ∧
      ∃ lost, (c.absorbReadyProjectionLocked bead opts).1 = { c with readyProjectionLost := lost } ∧
        ∀ j, lost.lookup j =
          if j = bead.id then (c.row bead.id).absorbedLost bead opts
          else c.readyProjectionLost.lookup j := by
  unfold absorbReadyProjectionLocked
  by_cases fresh : bead.isBlocked = none
  · rw [if_neg (by simp [fresh])]
    -- Without a cached verdict there is nothing to keep and nothing to lose.
    have bare (verdict : (c.row bead.id).cachedVerdict = none) :
        bead = (c.row bead.id).absorbedBead bead opts ∧
          ∃ lost, c = { c with readyProjectionLost := lost } ∧ ∀ j, lost.lookup j =
            if j = bead.id then (c.row bead.id).absorbedLost bead opts
            else c.readyProjectionLost.lookup j := by
      refine ⟨by simp [absorbedBead, keepsVerdict, verdict], c.readyProjectionLost, rfl, ?_⟩
      intro j
      split
      next h =>
        subst h
        simp [absorbedLost, keepsVerdict, verdict, fresh]
      next => rfl
    cases cached : c.beads.find bead.id with
    | none => exact bare (by simp [cachedVerdict, cached])
    | some old =>
      have verdict : (c.row bead.id).cachedVerdict = old.isBlocked := by
        simp [cachedVerdict, cached]
      dsimp only
      by_cases none : old.isBlocked = none
      · rw [if_pos none]
        exact bare (verdict.trans none)
      · rw [if_neg none]
        by_cases keep : opts.readyMode = .readyPreserveWhenDepsUnchanged ∧
            depsChanged (c.depsOf bead.id) (effectiveAbsorbDeps (c.depsOf bead.id) bead opts) = false
        · rw [if_pos keep]
          have keeps : (c.row bead.id).keepsVerdict bead opts :=
            ⟨fresh, by rw [verdict]; exact none, keep.1, keep.2⟩
          refine ⟨by simp [absorbedBead, keeps, verdict], c.readyProjectionLost.erase bead.id, rfl, ?_⟩
          simp [absorbedLost, keeps]
        · rw [if_neg keep]
          have lost : ¬ (c.row bead.id).keepsVerdict bead opts := fun k => keep ⟨k.2.2.1, k.2.2.2⟩
          refine ⟨by simp [absorbedBead, lost], c.readyProjectionLost.insert bead.id (), rfl, ?_⟩
          simp [absorbedLost, lost, fresh, verdict, none]
  · rw [if_pos fresh]
    have lost : ¬ (c.row bead.id).keepsVerdict bead opts := fun k => fresh k.1
    refine ⟨by simp [absorbedBead, lost], c.readyProjectionLost.erase bead.id, rfl, ?_⟩
    simp [absorbedLost, fresh]

theorem lookup_absorbDeps (j : String) : (absorbDeps c.deps bead opts).lookup j =
      if j = bead.id then (c.row j).absorbedDeps bead opts else c.deps.lookup j := by
  unfold absorbDeps absorbedDeps
  cases opts.depsMode with
  | depsFromFieldsIfCarried =>
    by_cases carries : beadCarriesDependencyFields bead <;> simp [carries]
  | depsKeepCached | depsExplicit | depsFromFields | depsDrop => simp

theorem row_installFresh (j : String) : (c.installFresh bead opts).row j =
      if j = bead.id then
        { c.row j with
          bead := some bead
          deps := (c.row j).absorbedDeps bead opts
          dirty := if opts.clearDirty then none else (c.row j).dirty
          deletedSeq := none }
      else c.row j := by
  have depsSame := c.lookup_absorbDeps bead opts j
  by_cases h : j = bead.id <;> cases clear : opts.clearDirty <;>
    simp [installFresh, row, depsSame, clear, h]

theorem row_settleFences (now : Time) (mode : AbsorbSeqMode) (j : String) :
    (c.settleFences id now mode).row j =
      if j = id then
        { c.row j with
          beadSeq :=
            if (c.row j).clearsStamp c.reservedMutations now mode ∨ mode = .seqClearBeadSeqOnly
            then none else (c.row j).beadSeq
          localBeadAt :=
            if (c.row j).clearsStamp c.reservedMutations now mode then none
            else (c.row j).localBeadAt }
      else c.row j := by
  cases mode with
  | seqKeep => simp [settleFences, clearsStamp, row]
  | seqClearBeadSeqOnly =>
    by_cases h : j = id <;> simp [settleFences, clearsStamp, row, h]
  | seqClearGuarded =>
    unfold settleFences
    dsimp only
    split
    next clear =>
      by_cases h : j = id
      · subst h
        simp [clearsStamp, clear.1, clear.2]
        simp [row]
      · simp [row, h]
    next keep =>
      by_cases h : j = id
      · have stays : ¬ (c.row j).clearsStamp c.reservedMutations now .seqClearGuarded :=
          fun k => keep ⟨k.2.1, h ▸ k.2.2⟩
        simp only [if_pos h, stays, reduceCtorEq, false_or, if_false]
      · simp [h]

theorem settleFences_frame (now : Time) (mode : AbsorbSeqMode) :
    (c.settleFences id now mode).globals = c.globals ∧
      (c.settleFences id now mode).observationRevision = c.observationRevision ∧
      (c.settleFences id now mode).advances = c.advances := by
  cases mode with
  | seqKeep | seqClearBeadSeqOnly => exact ⟨rfl, rfl, rfl⟩
  | seqClearGuarded =>
    unfold settleFences
    dsimp only
    split <;> exact ⟨rfl, rfl, rfl⟩

theorem absorbFreshLocked_spec (now : Time) (opts : AbsorbOpts) :
    (∀ j, (c.absorbFreshLocked bead now opts).row j =
      if j = bead.id then (c.row j).absorb c.reservedMutations bead now opts else c.row j) ∧
      (c.absorbFreshLocked bead now opts).globals = c.globals ∧
      (c.absorbFreshLocked bead now opts).observationRevision =
        c.advanceObservationLocked.observationRevision ∧
      (c.absorbFreshLocked bead now opts).advances = c.advances + 1 := by
  obtain ⟨installed, lost, marked, lookupLost⟩ :=
    c.advanceObservationLocked.absorbReadyProjectionLocked_eq bead opts
  rw [row_advanceObservationLocked] at installed lookupLost
  have idSame := (c.row bead.id).absorbedBead_id bead opts
  have depsSame := (c.row bead.id).absorbedDeps_absorbedBead (c.row bead.id) bead opts
  have unfolded : c.absorbFreshLocked bead now opts =
      (installFresh { c.advanceObservationLocked with readyProjectionLost := lost }
        ((c.row bead.id).absorbedBead bead opts) opts).settleFences bead.id now opts.seqMode := by
    unfold absorbFreshLocked
    dsimp only
    rw [installed, marked, idSame]
  obtain ⟨globalsSame, revisionSame, advancesSame⟩ := settleFences_frame
    (installFresh { c.advanceObservationLocked with readyProjectionLost := lost }
      ((c.row bead.id).absorbedBead bead opts) opts) bead.id now opts.seqMode
  rw [unfolded]
  refine ⟨?_, globalsSame, revisionSame, advancesSame⟩
  intro j
  have marks : (row { c.advanceObservationLocked with readyProjectionLost := lost } j) =
      { c.row j with
        readyLost := if j = bead.id then (c.row bead.id).absorbedLost bead opts
          else (c.row j).readyLost } := by
    have := lookupLost j
    simp only [row, this]
    rfl
  rw [row_settleFences, row_installFresh, idSame, marks]
  by_cases h : j = bead.id
  · subst h
    simp only [if_true]
    unfold RowState.absorb
    rw [← depsSame]
    rfl
  · simp only [if_neg h]

end CachingStore

end GasCity
