import GasCity.LoopStore
import GasCity.NudgeQueue

namespace GasCity

open KeyedList List

structure Shadow where
  beadID : String
  nudgeID : String
  closed : Bool := false
  state : String := "queued"
deriving DecidableEq

abbrev ShadowStore := KeyedList Shadow.beadID

def nudgeLookupLimit : Nat := 20

namespace ShadowStore

variable (s : ShadowStore)

def labelled (nudgeID : String) (includeClosed : Bool) : List Shadow :=
  (s.rows.reverse.filter fun r => decide (r.nudgeID = nudgeID) && (includeClosed || !r.closed)).take
    (nudgeLookupLimit + 1)

/-- The first open bead, or terminal one if closed beads count; failing that, the newest. A lookup
over the cap that finds neither is refused. -/
def lookup (nudgeID : String) (includeClosed : Bool) :
    Except Unit (Option Shadow) :=
  if nudgeID = "" then .ok none
  else
    let items := s.labelled nudgeID includeClosed
    match items.find? fun r => !r.closed || (includeClosed && isTerminalNudgeState r.state) with
    | some r => .ok (some r)
    | none =>
      if items.length > nudgeLookupLimit then .error ()
      else if includeClosed then .ok items.head?
      else .ok none

def shut (state : Option String) (r : Shadow) : Shadow :=
  { r with closed := true, state := state.getD r.state }

theorem shut_beadID (state : Option String) (r : Shadow) : (shut state r).beadID = r.beadID := rfl

def close (beadID : String) (state : Option String) : ShadowStore :=
  s.modify beadID (shut state) (shut_beadID state)

section Front

variable (ids : IDSupply)

variable (s : ShadowStore)

def freshBead : String := ids.mint ("" :: s.keys)

theorem freshBead_not_mem : s.freshBead ids ∉ s.keys := fun mem =>
  ids.fresh _ (mem_cons_of_mem "" mem)

theorem freshBead_ne : s.freshBead ids ≠ "" := fun same =>
  ids.fresh ("" :: s.keys) (mem_cons.mpr (.inl same))

def create (nudgeID : String) : ShadowStore :=
  s.push { beadID := s.freshBead ids, nudgeID := nudgeID } (s.freshBead_not_mem ids)

def save (item : Nudge) (s : ShadowStore) : Except ShadowStore ((String × Bool) × ShadowStore) :=
  match s.lookup item.id false with
  | .error _ => .error s
  | .ok (some r) => .ok ((r.beadID, false), s)
  | .ok none => .ok ((s.freshBead ids, true), s.create ids item.id)

def terminalize (item : Nudge) (state : String) (s : ShadowStore) : Bool × ShadowStore :=
  if item.beadID ≠ "" ∧ item.beadID ∈ s.keys then (true, s.close item.beadID (some state))
  else
    match s.lookup item.id true with
    | .error _ => (false, s)
    | .ok none => (true, s)
    | .ok (some r) => (true, s.close r.beadID (some state))

/-- The front door over a store that never fails. -/
def front : ShadowFront ShadowStore where
  save := save ids
  terminalize := fun item state _ _ _ s => s.terminalize item state
  findIncludingTerminal := fun nudgeID s =>
    match s.lookup nudgeID true with
    | .error e => (.error e, s)
    | .ok r => (.ok (r.map Shadow.state), s)
  rollbackEnqueue := fun beadID s => if beadID = "" then s else s.close beadID none

end Front

def OpenAt (s : ShadowStore) (beadID nudgeID : String) : Prop :=
  ∃ r, s.find beadID = some r ∧ r.closed = false ∧ r.nudgeID = nudgeID

def ClosedAt (s : ShadowStore) (beadID : String) : Prop :=
  ∃ r, s.find beadID = some r ∧ r.closed = true

variable {b n nudgeID : String} {s : ShadowStore}

theorem OpenAt.nudge {n' : String} (one : s.OpenAt b n) (other : s.OpenAt b n') : n = n' := by
  obtain ⟨r, found, _, rfl⟩ := one
  obtain ⟨r', found', _, rfl⟩ := other
  rw [found] at found'
  cases found'
  rfl

theorem OpenAt.not_closed (opened : s.OpenAt b n) :
    ¬ s.ClosedAt b := by
  rintro ⟨r, found, closed⟩
  obtain ⟨r', found', still, _⟩ := opened
  rw [found] at found'
  cases found'
  rw [closed] at still
  cases still

theorem find_close (s : ShadowStore) (b j : String) (state : Option String) :
    (s.close b state).find j = if j = b then (s.find j).map (shut state) else s.find j := by
  rw [close, find_modify]

theorem openAt_close (s : ShadowStore) (b : String) (state : Option String) (b' n : String) :
    (s.close b state).OpenAt b' n ↔ b' ≠ b ∧ s.OpenAt b' n := by
  constructor
  · rintro ⟨r, found, still, rfl⟩
    rw [find_close] at found
    split at found
    next =>
      obtain ⟨r', _, rfl⟩ := Option.map_eq_some_iff.mp found
      cases still
    next other => exact ⟨other, r, found, still, rfl⟩
  · rintro ⟨other, r, found, still, rfl⟩
    refine ⟨r, ?_, still, rfl⟩
    rw [find_close, if_neg other]
    exact found

theorem ClosedAt.close {b' : String} (closed : s.ClosedAt b') (b : String) (state : Option String) :
    (s.close b state).ClosedAt b' := by
  obtain ⟨r, found, done⟩ := closed
  by_cases here : b' = b
  · refine ⟨shut state r, ?_, rfl⟩
    rw [find_close, if_pos here, found, Option.map_some]
  · refine ⟨r, ?_, done⟩
    rw [find_close, if_neg here, found]

theorem closedAt_close (opened : s.OpenAt b n) (state : Option String) : (s.close b state).ClosedAt b := by
  obtain ⟨r, found, _, _⟩ := opened
  refine ⟨shut state r, ?_, rfl⟩
  rw [find_close, if_pos rfl, found, Option.map_some]

theorem OpenAt.mem_keys (opened : s.OpenAt b n) : b ∈ s.keys := by
  obtain ⟨r, found, _⟩ := opened
  exact mem_keys_iff.mpr ⟨r, found⟩

theorem ClosedAt.mem_keys (closed : s.ClosedAt b) : b ∈ s.keys := by
  obtain ⟨r, found, _⟩ := closed
  exact mem_keys_iff.mpr ⟨r, found⟩

theorem find_create (ids : IDSupply) (s : ShadowStore) (nudgeID j : String) :
    (s.create ids nudgeID).find j =
      if j = s.freshBead ids then some { beadID := s.freshBead ids, nudgeID := nudgeID }
      else s.find j := by
  rw [create, find_push]

theorem openAt_create (ids : IDSupply) (s : ShadowStore) (nudgeID b n : String) :
    (s.create ids nudgeID).OpenAt b n ↔ s.OpenAt b n ∨ (b = s.freshBead ids ∧ n = nudgeID) := by
  constructor
  · rintro ⟨r, found, still, rfl⟩
    rw [find_create] at found
    split at found
    next here =>
      cases found
      exact .inr ⟨here, rfl⟩
    next => exact .inl ⟨r, found, still, rfl⟩
  · rintro (opened | ⟨rfl, same⟩)
    · have other : b ≠ s.freshBead ids := fun same =>
        s.freshBead_not_mem ids (same ▸ opened.mem_keys)
      obtain ⟨r, found, still, rfl⟩ := opened
      refine ⟨r, ?_, still, rfl⟩
      rw [find_create, if_neg other]
      exact found
    · refine ⟨{ beadID := s.freshBead ids, nudgeID := nudgeID }, ?_, rfl, same.symm⟩
      rw [find_create, if_pos rfl]

theorem ClosedAt.create (closed : s.ClosedAt b) (ids : IDSupply) (nudgeID : String) :
    (s.create ids nudgeID).ClosedAt b := by
  have other : b ≠ s.freshBead ids := fun same =>
    s.freshBead_not_mem ids (same ▸ closed.mem_keys)
  obtain ⟨r, found, done⟩ := closed
  refine ⟨r, ?_, done⟩
  rw [find_create, if_neg other]
  exact found

theorem mem_labelled {includeClosed : Bool} {r : Shadow} (mem : r ∈ s.labelled nudgeID includeClosed) :
    s.find r.beadID = some r ∧ r.nudgeID = nudgeID ∧ (includeClosed = true ∨ r.closed = false) := by
  have kept := mem_filter.mp (mem_of_mem_take mem)
  simp only [Bool.or_eq_true, Bool.and_eq_true, decide_eq_true_eq, Bool.not_eq_true'] at kept
  exact ⟨find_key_of_mem (mem_reverse.mp kept.1), kept.2⟩

theorem lookup_open (s : ShadowStore) (named : nudgeID ≠ "") :
    (∃ r, s.lookup nudgeID false = .ok (some r) ∧ s.OpenAt r.beadID nudgeID) ∨
      (s.lookup nudgeID false = .ok none ∧ ∀ b, ¬ s.OpenAt b nudgeID) := by
  unfold lookup
  rw [if_neg named]
  cases listed : s.labelled nudgeID false with
  | nil =>
    refine .inr ⟨rfl, ?_⟩
    rintro b ⟨r, found, still, label⟩
    have mem : r ∈ s.rows.reverse.filter fun r =>
        decide (r.nudgeID = nudgeID) && (false || !r.closed) := by
      refine mem_filter.mpr ⟨mem_reverse.mpr (mem_of_find found), ?_⟩
      simp [label, still]
    have none := listed
    rw [labelled, take_eq_nil_iff] at none
    rcases none with zero | none
    · cases zero
    · rw [none] at mem
      cases mem
  | cons r rest =>
    obtain ⟨found, label, still⟩ := mem_labelled (listed ▸ mem_cons_self : r ∈ s.labelled nudgeID false)
    have still := still.resolve_left (by decide)
    refine .inl ⟨r, ?_, r, found, still, label⟩
    simp [still]

theorem lookup_mem {includeClosed : Bool} {r : Shadow}
    (found : s.lookup nudgeID includeClosed = .ok (some r)) :
    s.find r.beadID = some r ∧ r.nudgeID = nudgeID := by
  have listed : r ∈ s.labelled nudgeID includeClosed := by
    unfold lookup at found
    split at found
    next => cases found
    next =>
      dsimp only at found
      split at found
      next r' hit =>
        cases found
        exact mem_of_find?_eq_some hit
      next =>
        split at found
        next => cases found
        next =>
          split at found
          next =>
            cases head : s.labelled nudgeID includeClosed with
            | nil =>
              rw [head] at found
              cases found
            | cons r' rest =>
              rw [head] at found
              cases found
              exact mem_cons_self
          next => cases found
  obtain ⟨found, label, -⟩ := mem_labelled listed
  exact ⟨found, label⟩

theorem terminalize_of_mem {item : Nudge} (named : item.beadID ≠ "") (mem : item.beadID ∈ s.keys)
    (state : String) :
    s.terminalize item state = (true, s.close item.beadID (some state)) := by
  rw [terminalize, if_pos ⟨named, mem⟩]

end ShadowStore

end GasCity
