import GasCity.LoopWispClosed
import GasCity.LoopRecovery
import GasCity.LoopStats

namespace GasCity.LoopStore

open Program

variable {s t u : LoopStore} {x : Wisp} {ids : IDSupply} {r : String}

def Tidied (t u : LoopStore) : Prop := u = t ∨ u = t.note (.pendingNextWisp "")

inductive Adopted (ids : IDSupply) (t : LoopStore) (n : Nat) : LoopStore → Wisp → Prop
  | there {u : LoopStore} {x : Wisp} : Tidied t u → u.wispAt n = some x → Adopted ids t n u x
  | poured {u : LoopStore} {x : Wisp} : Tidied t u → u.wispAt n = none →
      (u.pour ids n true).2.wispAt n = some x → Adopted ids t n (u.pour ids n true).2 x

inductive Resuming (ids : IDSupply) (t : LoopStore) (n : Nat) : LoopStore → StoreOp → Prop
  | tidy : Resuming ids t n t (.setMetadata t.rootID (.pendingNextWisp ""))
  | pour {u : LoopStore} (args : PourArgs) : Tidied t u → u.wispAt n = none →
      Resuming ids t n u (.pourWisp t.rootID (IdempotencyKey t.rootID n) args)
  | activate {u : LoopStore} {x : Wisp} : Adopted ids t n u x →
      Resuming ids t n u (.activateWisp x.id)
  | name {u : LoopStore} {x : Wisp} : Adopted ids t n u x →
      Resuming ids t n (u.publish x.id) (.setMetadata t.rootID (.activeWisp x.id))
  | forget {u : LoopStore} {x : Wisp} : Adopted ids t n u x →
      Resuming ids t n (nextNamed u x) (.setMetadata t.rootID (.pendingNextWisp ""))

theorem Tidied.fields (tidied : Tidied t u) :
    u.rootID = t.rootID ∧ u.created = t.created ∧ u.wisps = t.wisps ∧
      Undecided t.metadata u.metadata := by
  rcases tidied with rfl | rfl
  · exact ⟨rfl, rfl, rfl, Undecided.refl _⟩
  · exact ⟨rfl, rfl, rfl, undecided_note (Undecided.refl _) rfl⟩

structure Beside (t : LoopStore) (n : Nat) (u : LoopStore) (x : Wisp) : Prop where
  rootID : u.rootID = t.rootID
  created : u.created = t.created
  undecided : Undecided t.metadata u.metadata
  others : ∀ i, i ≠ n → u.wispAt i = t.wispAt i
  found : u.wispAt n = some x
  origin : t.wispAt n = some x ∨ t.wispAt n = none ∧ x.status = .isOpen ∧
    x.id ∉ mentioned u.metadata

theorem Adopted.beside {n : Nat} (adopted : Adopted ids t n u x) : Beside t n u x := by
  cases adopted with
  | there tidied found =>
    obtain ⟨rootID, created, wisps, undecided⟩ := tidied.fields
    have same := wispAt_of_wisps wisps
    refine ⟨rootID, created, undecided, fun i _ => same i, found, .inl ?_⟩
    rw [← same, found]
  | @poured v _ tidied free found =>
    obtain ⟨rootID, created, wisps, undecided⟩ := tidied.fields
    have same := wispAt_of_wisps wisps
    obtain ⟨rootID', created', _, metadata', others, y, found', id, origin⟩ := pour_spec ids v n true
    refine ⟨rootID'.trans rootID, created'.trans created, ?_, ?_, found, ?_⟩
    · rw [metadata']
      exact undecided
    · intro i other
      rw [others i other, same]
    · rw [found] at found'
      cases Option.some.inj found'
      rcases origin with unchanged | ⟨_, status, _, unmentioned⟩
      · rw [unchanged, free] at found
        cases found
      · rw [metadata', ← same, id]
        exact .inr ⟨free, status, unmentioned⟩

variable {E : HandlerError → LoopStore → Prop}

theorem holds_nextWisp {n : Nat} (created : t.created = true) :
    (nextWisp (store ids) t.rootID (IdempotencyKey t.rootID n) t.metadata).Holds (exec ids)
      (Resuming ids t n) (fun res u => ∃ x, x.id = res.1 ∧ Adopted ids t n u x) E t := by
  refine (holds_validPending rfl created (fun _ => .tidy)).bind ?_
  rintro id u (⟨rfl, _, tidied⟩ | ⟨rfl, _, x, found, rfl⟩)
  · obtain ⟨root, created', _, _⟩ := Tidied.fields tidied
    refine holds_ite.mpr ⟨fun set => absurd rfl set, fun _ => ?_⟩
    rw [← root]
    refine answer_then (FindByIdempotencyKey_root u n) ?_
    cases found : u.wispAt n with
    | some x => exact ⟨x, rfl, .there tidied found⟩
    | none =>
      rw [root]
      refine holds_bind.mpr (holds_mustGet (exec_pourWisp root (created'.trans created))
        (.pour _ tidied found) ?_)
      obtain ⟨x, at_n, id, _⟩ := (pour_spec ids u n true).there
      exact ⟨x, id, .poured tidied found at_n⟩
  · have set := id_ne_empty (find_of_wispAt found)
    refine holds_ite.mpr ⟨fun _ => ?_, fun unset => absurd set unset⟩
    exact ⟨x, rfl, .there (.inl rfl) found⟩

theorem holds_resumeChain (created : t.created = true) :
    (resumeChain (store ids) t.rootID t.metadata).Holds (exec ids)
      (Resuming ids t (t.closedCount + 1))
      (fun _ v => ∃ u x, Adopted ids t (t.closedCount + 1) u x ∧
        v = (nextNamed u x).note (.pendingNextWisp "")) E t := by
  have count := (statsOf_childStats t.rootID t.wisps.rows).count
  refine answer_then (Children_root t) ?_
  rw [count]
  refine (holds_nextWisp created).bind ?_
  rintro ⟨id, action⟩ u ⟨x, rfl, adopted⟩
  have beside := adopted.beside
  have root := beside.rootID
  have created' := beside.created.trans created
  refine holds_bind.mpr (holds_must (exec_activateWisp (find_of_wispAt beside.found))
    (.activate adopted) ?_)
  refine set_then root created' (.name adopted) ?_
  refine holds_bind.mpr (holds_attempt_set root created' (.forget adopted) ?_)
  exact ⟨u, x, adopted, rfl⟩

structure Ending (t u : LoopStore) : Prop where
  rootID : u.rootID = t.rootID
  created : u.created = t.created
  wisps : u.wisps = t.wisps
  activeWisp : u.metadata.activeWisp = t.metadata.activeWisp
  lastProcessedWisp : u.metadata.lastProcessedWisp = t.metadata.lastProcessedWisp
  terminalReason : u.metadata.terminalReason = t.metadata.terminalReason
  waitingReason : u.metadata.waitingReason = t.metadata.waitingReason
  maxIterations : u.metadata.maxIterations = t.metadata.maxIterations
  trigger : u.metadata.trigger = t.metadata.trigger

theorem Ending.refl (t : LoopStore) : Ending t t := ⟨rfl, rfl, rfl, rfl, rfl, rfl, rfl, rfl, rfl⟩

theorem Ending.signed (ending : Ending t u) (actor : String) :
    Ending t (u.note (.terminalActor actor)) :=
  { ending with }

theorem Ending.stated (ending : Ending t u) (state : LoopState) :
    Ending t (u.note (.state state)) :=
  { ending with }

theorem Ending.closed (ending : Ending t u) : Ending t u.closeRoot :=
  { ending with }

inductive Completing (t : LoopStore) : LoopStore → StoreOp → Prop
  | actor : Completing t t (.setMetadata t.rootID (.terminalActor "recovery"))
  | state {u : LoopStore} : Ending t u →
      Completing t u (.setMetadata t.rootID (.state .terminated))
  | close {u : LoopStore} : Ending t u → u.metadata.state = .terminated →
      Completing t u (.closeBead t.rootID .reconcileDone)
  | mark {u : LoopStore} {w : Wisp} : Ending t u → u.metadata.state = .terminated →
      t.NewestClosed w → Completing t u (.setMetadata t.rootID (.lastProcessedWisp w.id))

theorem holds_backfillTerminalActor {P : LoopStore → StoreOp → Prop} (created : t.created = true)
    (actor : P t (.setMetadata t.rootID (.terminalActor "recovery"))) :
    (backfillTerminalActor t.rootID t.metadata).Holds (exec ids) P
      (fun _ u => Ending t u ∧ u.status = t.status ∧ u.metadata.state = t.metadata.state) E t := by
  refine holds_onlyIf.mpr ⟨fun _ => ?_, fun _ => ⟨Ending.refl t, rfl, rfl⟩⟩
  exact holds_set rfl created actor ⟨(Ending.refl t).signed _, rfl, rfl⟩

/-- An ending under way is completed: the root is terminated, and the newest closed wisp marked. -/
def Completed (t v : LoopStore) : Prop :=
  ∃ u, Ending t u ∧ u.metadata.state = .terminated ∧
    ((v = u ∧ ∀ x, ¬ t.NewestClosed x) ∨
      ∃ x, t.NewestClosed x ∧ v = u.note (.lastProcessedWisp x.id))

theorem holds_completeTerminalTransition (created : t.created = true)
    (running : t.metadata.state ≠ .terminated) :
    (completeTerminalTransition (store ids) t.rootID t.metadata).Holds (exec ids) (Completing t)
      (fun _ v => Completed t v) E t := by
  refine (holds_backfillTerminalActor created .actor).bind ?_
  rintro _ u ⟨ending, _, _⟩
  have root := ending.rootID
  have created' := ending.created.trans created
  have stats : childStatsOf (store ids) t.rootID u =
      childStats (t.wisps.rows.map (Wisp.info t.rootID)) t.rootID := by
    rw [childStatsOf, show (store ids).Children u t.rootID = _ from root ▸ Children_root u, ending.wisps,
      ← root]
  refine holds_bind.mpr (holds_look.mpr ?_)
  rw [stats]
  refine holds_bind.mpr (holds_onlyIf.mpr ⟨fun _ => ?_, fun ended => absurd running ended⟩)
  refine holds_set root created' (.state ending) ?_
  have stated := ending.stated .terminated
  refine holds_bind.mpr (holds_must (exec_closeRoot root created') (.close stated rfl) ?_)
  rcases highestClosed_cases t with best | ⟨w, newest, best⟩
  · rw [best]
    refine ⟨_, stated.closed, rfl, .inl ⟨rfl, ?_⟩⟩
    intro w newest
    rw [newest.highestClosed] at best
    cases best
  · rw [best]
    refine holds_bind.mpr (holds_attempt_set root created'
      (.mark stated.closed rfl newest) ?_)
    exact ⟨_, stated.closed, rfl, .inr ⟨w, newest, rfl⟩⟩

end GasCity.LoopStore
