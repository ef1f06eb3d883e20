import Mathlib.Logic.Function.Basic

namespace GasCity

open Function

section Runs

variable {σ ε : Type}

def Along (next : σ → ε → σ) (ok : σ → ε → Prop) : σ → List ε → Prop
  | _, [] => True
  | s, e :: es => ok s e ∧ Along next ok (next s e) es

variable {es : List ε} {next : σ → ε → σ} {ok : σ → ε → Prop}

theorem Along.append {s : σ} {es' : List ε} (along : Along next ok s (es ++ es')) :
    Along next ok s es ∧ Along next ok (es.foldl next s) es' := by
  induction es generalizing s with
  | nil => exact ⟨trivial, along⟩
  | cons e es ih =>
    obtain ⟨first, rest⟩ := along
    obtain ⟨before, after⟩ := ih rest
    exact ⟨⟨first, before⟩, after⟩

theorem Along.of_forall {ok : ε → Prop} (s : σ) (all : ∀ e ∈ es, ok e) : Along next (fun _ e => ok e) s es := by
  induction es generalizing s with
  | nil => trivial
  | cons e es ih =>
    exact ⟨all e List.mem_cons_self, ih _ fun e' mem => all e' (List.mem_cons_of_mem e mem)⟩

theorem Along.and {ok' : σ → ε → Prop} {s : σ} (along : Along next ok s es)
    (along' : Along next ok' s es) :
    Along next (fun s e => ok s e ∧ ok' s e) s es := by
  induction es generalizing s with
  | nil => trivial
  | cons e es ih => exact ⟨⟨along.1, along'.1⟩, ih along.2 along'.2⟩

theorem Along.invariant {inv : σ → Prop} (keeps : ∀ s e, inv s → ok s e → inv (next s e)) {s : σ}
    (along : Along next ok s es) (start : inv s) : inv (es.foldl next s) := by
  induction es generalizing s with
  | nil => exact start
  | cons e es ih =>
    obtain ⟨first, rest⟩ := along
    exact ih rest (keeps s e start first)

theorem Along.imp {ok' : σ → ε → Prop} {inv : σ → Prop} (keeps : ∀ s e, inv s → ok s e → inv (next s e))
    (implies : ∀ s e, inv s → ok' s e) {s : σ} (along : Along next ok s es) (start : inv s) :
    Along next ok' s es := by
  induction es generalizing s with
  | nil => trivial
  | cons e es ih =>
    obtain ⟨first, rest⟩ := along
    exact ⟨implies s e start, ih rest (keeps s e start first)⟩

def Sometime (next : σ → ε → σ) (ok : σ → ε → Prop) : σ → List ε → Prop
  | _, [] => False
  | s, e :: es => ok s e ∨ Sometime next ok (next s e) es

/-- What one step reaches exactly under a condition, a run reaches exactly when a step of it meets
the condition. -/
theorem Sometime.reached_iff (ok : σ → ε → Prop) (inv reached : σ → Prop) {good : ε → Prop}
    (keeps : ∀ s e, inv s → good e → inv (next s e))
    (reaches : ∀ s e, inv s → good e → (reached (next s e) ↔ reached s ∨ ok s e)) {s : σ}
    (start : inv s) (events : ∀ e ∈ es, good e) :
    inv (es.foldl next s) ∧ (reached (es.foldl next s) ↔ reached s ∨ Sometime next ok s es) := by
  induction es generalizing s with
  | nil => exact ⟨start, by simp [Sometime]⟩
  | cons e es ih =>
    have first := events e List.mem_cons_self
    obtain ⟨kept, rest⟩ := ih (keeps s e start first) fun e' h => events e' (List.mem_cons_of_mem e h)
    refine ⟨kept, rest.trans ?_⟩
    rw [reaches s e start first, or_assoc]
    rfl

end Runs

theorem bind_eq_ok {ε α β : Type} {x : Except ε α} {f : α → Except ε β} {b : β}
    (ran : x >>= f = .ok b) : ∃ a, x = .ok a ∧ f a = .ok b := by
  cases x with
  | error e => cases ran
  | ok a => exact ⟨a, rfl, ran⟩

theorem bind_of_ok {ε α β : Type} {x : Except ε α} {f : α → Except ε β} {a : α}
    (ran : x = .ok a) : x >>= f = f a := by
  rw [ran]
  rfl

/-- Concurrent calls on a shared state, each with its own control state. -/
structure Threads (ι σ κ : Type) where
  shared : σ
  calls : ι → κ

namespace Threads

variable {ι σ κ τ : Type} [DecidableEq ι]

def step (f : τ → σ → κ → σ × κ) (s : Threads ι σ κ) (e : ι × τ) : Threads ι σ κ where
  shared := (f e.2 s.shared (s.calls e.1)).1
  calls := update s.calls e.1 (f e.2 s.shared (s.calls e.1)).2

def run (f : τ → σ → κ → σ × κ) (s : Threads ι σ κ) (schedule : List (ι × τ)) : Threads ι σ κ :=
  schedule.foldl (step f) s

variable {f : τ → σ → κ → σ × κ} {s : Threads ι σ κ} {e : ι × τ}

@[simp] theorem step_calls_self : (s.step f e).calls e.1 = (f e.2 s.shared (s.calls e.1)).2 :=
  update_self e.1 _ s.calls

theorem step_calls_of_ne {t : ι} (other : t ≠ e.1) : (s.step f e).calls t = s.calls t :=
  update_of_ne other _ s.calls

theorem step_calls {p : κ → Prop} (moved : p (f e.2 s.shared (s.calls e.1)).2) {t : ι}
    (stays : t ≠ e.1 → p (s.calls t)) : p ((s.step f e).calls t) := by
  by_cases same : t = e.1
  · subst same
    rw [step_calls_self]
    exact moved
  · rw [step_calls_of_ne same]
    exact stays same

end Threads

end GasCity
