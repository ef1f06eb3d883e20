import Mathlib.Data.List.Induction
import GasCity.DecisionLedgerRuns

namespace GasCity.Ledger

open KeyedList

/-- A ledger goes on from an earlier one: a record keeps its payload and does not fall behind, a
terminal one stays as it is, and so does every audit. -/
structure Extends {F : Type} (l l' : Ledger F) : Prop where
  records : ∀ id r, l.decisions.find id = some r → ∃ r', l'.decisions.find id = some r' ∧
    r'.payload = r.payload ∧ r.recordRevision ≤ r'.recordRevision ∧
    (r.state.isTerminal = true → r' = r)
  audits : ∀ key a, l.transitions.find key = some a → l'.transitions.find key = some a

variable {F : Type} {c : Crypto F} {accepted : ApprovalRule} {guarded : Prop} {l l' l'' : Ledger F}

theorem Extends.refl (l : Ledger F) : l.Extends l :=
  ⟨fun _ r found => ⟨r, found, rfl, le_rfl, fun _ => rfl⟩, fun _ _ found => found⟩

theorem Extends.trans (first : l.Extends l') (next : l'.Extends l'') : l.Extends l'' := by
  refine ⟨fun id r found => ?_, fun key a found => next.audits key a (first.audits key a found)⟩
  obtain ⟨r', found', payload, later, settled⟩ := first.records id r found
  obtain ⟨r'', found'', payload', later', settled'⟩ := next.records id r' found'
  refine ⟨r'', found'', payload'.trans payload, later.trans later', fun terminal => ?_⟩
  cases settled terminal
  exact settled' terminal

theorem Extends.of_new (ok : l.Consistent accepted) {id : String} (missing : l.decisions.find id = none)
    (decisions : ∀ j, j ≠ id → l'.decisions.find j = l.decisions.find j)
    (audits : ∀ j n, j ≠ id → l'.transitions.find (j, n) = l.transitions.find (j, n)) :
    l.Extends l' := by
  refine ⟨fun j r found => ⟨r, ?_, rfl, le_rfl, fun _ => rfl⟩, fun ⟨j, n⟩ a found => ?_⟩
  · rwa [decisions j (by rintro rfl; simp [missing] at found)]
  · rwa [audits j n (by rintro rfl; simp [ok.owned _ n missing] at found)]

theorem not_allowed_of_isTerminal {s t : DecisionState} (terminal : s.isTerminal = true) :
    s.isAllowedTransition t = false := by
  cases s <;> first | rfl | cases terminal

theorem extends_write (ok : l.Consistent accepted) (write : LedgerWrite c accepted guarded l l') :
    l.Extends l' := by
  cases write with
  | opened r missing =>
    exact .of_new ok missing (fun j other => (find_set ..).trans (if_neg other)) fun j n other =>
      Consistent.find_set_other n other
  | admitted r missing =>
    refine .of_new ok missing (fun j other => ?_) fun j n other =>
      (Consistent.find_set_other n other).trans (Consistent.find_set_other n other)
    exact (find_set ..).trans ((if_neg other).trans ((find_set ..).trans (if_neg other)))
  | ingested r missing =>
    exact .of_new ok missing (fun j other => (find_set ..).trans (if_neg other)) fun j n other =>
      (Consistent.find_set_other n other).trans (Consistent.find_set_other n other)
  | moved old new moves =>
    obtain ⟨found, payload, -, -, next, -, allowed, -⟩ := moves
    have same : new.id = old.id := congrArg DecisionPayload.decisionID payload
    refine ⟨fun j r held => ?_, fun ⟨j, n⟩ a held => (find_set ..).trans ((if_neg ?_).trans held)⟩
    · simp only [replace, find_set]
      split
      next here =>
        cases found.symm.trans (same ▸ here ▸ held)
        refine ⟨new, rfl, payload, by omega, fun terminal => ?_⟩
        rw [not_allowed_of_isTerminal terminal] at allowed
        cases allowed
      next => exact ⟨r, held, rfl, le_rfl, fun _ => rfl⟩
    · -- the audit of the move is numbered beyond the trail of the record
      rintro ⟨⟩
      have numbered := ((ok.trails _ old found).numbered new.recordRevision).mp
      rw [← same] at numbered
      have := (numbered (Option.isSome_of_eq_some held)).2
      omega
  | receipted | imported => exact ⟨(Extends.refl l).records, (Extends.refl l).audits⟩

theorem extends_writes (ok : l.Consistent accepted) (settled : l.Settled)
    (writes : LedgerWrites c accepted guarded l l') : l.Extends l' := by
  induction writes with
  | refl => exact .refl l
  | tail writes write ih =>
    exact ih.trans (extends_write (LedgerWrite.consistents writes ok settled).1 write)

/-- Until a purge, a decision keeps its payload and its revision only grows, one in a terminal state
is not touched again, and no audit is rewritten. -/
theorem history_is_kept [DecidableEq F] (c : Crypto F) (before more : List LedgerEvent)
    (whole : ∀ e ∈ before ++ more, e.call.WholeWindow)
    (kept : ∀ e ∈ more, ∀ options, e.call ≠ .purgeTerminal options) :
    (after c before).Extends (after c (before ++ more)) := by
  have reached (events : List LedgerEvent) (whole : ∀ e ∈ events, e.call.WholeWindow) :
      (after c events).Consistent (fun _ _ _ => True) ∧ (after c events).Settled :=
    List.foldlRecOn (motive := fun l : Ledger F => l.Consistent (fun _ _ _ => True) ∧ l.Settled) events
      (step c) ⟨.empty, fun r mem => (List.not_mem_nil mem).elim⟩ fun l ok e mem =>
        step_consistent ok.1 ok.2 (whole e mem) fun _ _ _ _ => trivial
  induction more using List.reverseRecOn with
  | nil =>
    rw [List.append_nil]
    exact .refl _
  | append_singleton more e ih =>
    rw [← List.append_assoc] at whole ⊢
    have earlier e' (mem : e' ∈ before ++ more) := whole e' (List.mem_append_left [e] mem)
    have ok := reached _ earlier
    refine (ih earlier fun e' mem => kept e' (List.mem_append_left [e] mem)).trans ?_
    have writes : LedgerWrites c (fun _ _ _ => True) False (after c (before ++ more))
        ((after c (before ++ more)).step c e) := step_writes ok.1.whole (whole e (by simp))
      (fun _ _ _ _ => trivial) False.elim False.elim (kept e (by simp))
    have next : after c (before ++ more ++ [e]) = (after c (before ++ more)).step c e :=
      List.foldl_append
    rw [next]
    exact extends_writes ok.1 ok.2 writes

theorem history_is_kept_revoked :
    let before := [createCall "d" 3600, revokeCall "d"]
    let more := [createCall "e" 3600 "other"]
    (after plainCrypto (before ++ more)).decisions.rows.map (·.state) = [.proposed, .revoked] ∧
      (after plainCrypto before).Extends (after plainCrypto (before ++ more)) := by
  refine ⟨by decide +kernel, history_is_kept plainCrypto [createCall "d" 3600, revokeCall "d"]
    [createCall "e" 3600 "other"] ?_ ?_⟩
  · intro e mem
    rcases List.mem_cons.mp mem with rfl | mem
    · exact ⟨rfl, rfl⟩
    rcases List.mem_pair.mp mem with rfl | rfl
    · trivial
    · exact ⟨rfl, rfl⟩
  · intro e mem options
    rw [List.mem_singleton.mp mem]
    rintro ⟨⟩

end GasCity.Ledger
