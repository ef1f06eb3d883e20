import Mathlib.Logic.Relation

namespace GasCity

/-- A program over a store: it reads the store as it stands, performs writes and acts on their
replies, and returns or fails. -/
inductive Program (σ ω ρ ε α : Type) where
  | ret (a : α)
  | fail (e : ε)
  | read (k : σ → Program σ ω ρ ε α)
  | write (op : ω) (k : ρ → Program σ ω ρ ε α)

namespace Program

variable {σ ω ρ ε α β : Type}

protected def bind : Program σ ω ρ ε α → (α → Program σ ω ρ ε β) → Program σ ω ρ ε β
  | ret a, f => f a
  | fail e, _ => fail e
  | read k, f => read fun s => (k s).bind f
  | write op k, f => write op fun r => (k r).bind f

instance : Monad (Program σ ω ρ ε) where
  pure := ret
  bind := Program.bind

def onError : Program σ ω ρ ε α → (ε → Program σ ω ρ ε α) → Program σ ω ρ ε α
  | ret a, _ => ret a
  | fail e, h => h e
  | read k, h => read fun s => (k s).onError h
  | write op k, h => write op fun r => (k r).onError h

section Runs

variable (exec : ω → σ → ρ × σ)

def run : Program σ ω ρ ε α → σ → Except ε α × σ
  | ret a, s => (.ok a, s)
  | fail e, s => (.error e, s)
  | read k, s => (k s).run s
  | write op k, s => (k (exec op s).1).run (exec op s).2

def ops : Program σ ω ρ ε α → σ → List ω
  | ret _, _ => []
  | fail _, _ => []
  | read k, s => (k s).ops s
  | write op k, s => op :: (k (exec op s).1).ops (exec op s).2

def cut : Program σ ω ρ ε α → Nat → σ → σ
  | ret _, _, s => s
  | fail _, _, s => s
  | read k, n, s => (k s).cut n s
  | write _ _, 0, s => s
  | write op k, n + 1, s => (k (exec op s).1).cut n (exec op s).2

def runFailing (reply : ρ) : Program σ ω ρ ε α → Nat → σ → Except ε α × σ
  | ret a, _, s => (.ok a, s)
  | fail e, _, s => (.error e, s)
  | read k, n, s => (k s).runFailing reply n s
  | write _ k, 0, s => (k reply).run exec s
  | write op k, n + 1, s => (k (exec op s).1).runFailing reply n (exec op s).2

/-- Every write the program can make, whatever it reads and is replied, meets a condition. -/
def Only (B : ω → Prop) : Program σ ω ρ ε α → Prop
  | ret _ => True
  | fail _ => True
  | read k => ∀ s, (k s).Only B
  | write op k => B op ∧ ∀ r, (k r).Only B

/-- Every write is made in a state that meets `P`, and the run returns with `Q` or fails with `E`. -/
def Holds (P : σ → ω → Prop) (Q : α → σ → Prop) (E : ε → σ → Prop) : Program σ ω ρ ε α → σ → Prop
  | ret a, s => Q a s
  | fail e, s => E e s
  | read k, s => (k s).Holds P Q E s
  | write op k, s => P s op ∧ (k (exec op s).1).Holds P Q E (exec op s).2

end Runs

section Rules

variable {exec : ω → σ → ρ × σ} {P P' : σ → ω → Prop} {Q Q' : α → σ → Prop} {E E' : ε → σ → Prop}
  {p : Program σ ω ρ ε α} {s : σ}

@[simp] theorem holds_ret {a : α} :
    (ret a : Program σ ω ρ ε α).Holds exec P Q E s ↔ Q a s := Iff.rfl

@[simp] theorem holds_read {k : σ → Program σ ω ρ ε α} :
    (read k).Holds exec P Q E s ↔ (k s).Holds exec P Q E s := Iff.rfl

@[simp] theorem holds_write {op : ω} {k : ρ → Program σ ω ρ ε α} :
    (write op k).Holds exec P Q E s ↔
      P s op ∧ (k (exec op s).1).Holds exec P Q E (exec op s).2 := Iff.rfl

variable {f : α → Program σ ω ρ ε β}

@[simp] theorem holds_bind {Q : β → σ → Prop} :
    (p >>= f).Holds exec P Q E s ↔
      p.Holds exec P (fun a s' => (f a).Holds exec P Q E s') E s := by
  induction p generalizing s with
  | ret | fail => exact Iff.rfl
  | read k ih => exact ih s
  | write op k ih => exact and_congr_right fun _ => ih _

@[simp] theorem holds_onError {h : ε → Program σ ω ρ ε α} :
    (p.onError h).Holds exec P Q E s ↔
      p.Holds exec P Q (fun e s' => (h e).Holds exec P Q E s') s := by
  induction p generalizing s with
  | ret | fail => exact Iff.rfl
  | read k ih => exact ih s
  | write op k ih => exact and_congr_right fun _ => ih _

theorem holds_ite {c : Prop} [Decidable c] {p q : Program σ ω ρ ε α} :
    (if c then p else q).Holds exec P Q E s ↔
      (c → p.Holds exec P Q E s) ∧ (¬ c → q.Holds exec P Q E s) := by
  split
  next h => exact ⟨fun hp => ⟨fun _ => hp, fun hn => absurd h hn⟩, fun both => both.1 h⟩
  next h => exact ⟨fun hq => ⟨fun hp => absurd hp h, fun _ => hq⟩, fun both => both.2 h⟩

theorem holds_else {c : Prop} [Decidable c] {p q : Program σ ω ρ ε α} (first : p.Holds exec P Q E s)
    (second : ¬ c → q.Holds exec P Q E s) : (if c then p else q).Holds exec P Q E s :=
  holds_ite.mpr ⟨fun _ => first, second⟩

theorem Holds.mono (holds : p.Holds exec P Q E s) (writes : ∀ s op, P s op → P' s op)
    (returns : ∀ a s, Q a s → Q' a s) (fails : ∀ e s, E e s → E' e s) :
    p.Holds exec P' Q' E' s := by
  induction p generalizing s with
  | ret a => exact returns a s holds
  | fail e => exact fails e s holds
  | read k ih => exact ih s holds
  | write op k ih => exact ⟨writes s op holds.1, ih _ holds.2⟩

theorem Holds.bind {Q' : β → σ → Prop} (first : p.Holds exec P Q E s)
    (rest : ∀ a t, Q a t → (f a).Holds exec P Q' E t) :
    (p >>= f).Holds exec P Q' E s :=
  holds_bind.mpr (first.mono (fun _ _ h => h) rest (fun _ _ h => h))

theorem Holds.ends (holds : p.Holds exec P Q E s) :
    (∃ a, (p.run exec s).1 = .ok a ∧ Q a (p.run exec s).2) ∨
      ∃ e, (p.run exec s).1 = .error e ∧ E e (p.run exec s).2 := by
  induction p generalizing s with
  | ret a => exact .inl ⟨a, rfl, holds⟩
  | fail e => exact .inr ⟨e, rfl, holds⟩
  | read k ih => exact ih s holds
  | write op k ih => exact ih _ holds.2

theorem Holds.run {R : σ → Prop} (holds : p.Holds exec P (fun _ t => R t) (fun _ t => R t) s) :
    R (p.run exec s).2 := by
  rcases holds.ends with ⟨_, _, ended⟩ | ⟨_, _, ended⟩
  · exact ended
  · exact ended

theorem Holds.cut (holds : p.Holds exec P Q E s) (n : Nat) :
    (∃ op, (p.ops exec s)[n]? = some op ∧ P (p.cut exec n s) op) ∨
      ((p.ops exec s)[n]? = none ∧ p.cut exec n s = (p.run exec s).2) := by
  induction p generalizing s n with
  | ret | fail => exact .inr ⟨rfl, rfl⟩
  | read k ih => exact ih s holds n
  | write op k ih =>
    cases n with
    | zero => exact .inl ⟨op, rfl, holds.1⟩
    | succ n => exact ih _ holds.2 n

theorem Holds.keeps {I : σ → Prop} (holds : p.Holds exec P Q E s)
    (writes : ∀ t op, P t op → I t → I (exec op t).2) (start : I s) (n : Nat) :
    I (p.cut exec n s) := by
  induction p generalizing s n with
  | ret | fail => exact start
  | read k ih => exact ih s holds start n
  | write op k ih =>
    cases n with
    | zero => exact start
    | succ n => exact ih _ holds.2 (writes s op holds.1 start) n

theorem Holds.preserving {I : σ → Prop} (holds : p.Holds exec P Q E s)
    (writes : ∀ t op, P t op → I t → I (exec op t).2) (start : I s) :
    p.Holds exec (fun t op => P t op ∧ I t) (fun a t => Q a t ∧ I t) (fun e t => E e t ∧ I t) s := by
  induction p generalizing s with
  | ret | fail => exact ⟨holds, start⟩
  | read k ih => exact ih s holds start
  | write op k ih => exact ⟨⟨holds.1, start⟩, ih _ holds.2 (writes s op holds.1 start)⟩

end Rules

section Writes

variable {exec : ω → σ → ρ × σ} {B : ω → Prop} {p : Program σ ω ρ ε α}

theorem Only.bind {f : α → Program σ ω ρ ε β} (first : p.Only B) (rest : ∀ a, (f a).Only B) :
    (p >>= f).Only B := by
  induction p with
  | ret a => exact rest a
  | fail e => exact trivial
  | read k ih => exact fun s => ih s (first s)
  | write op k ih => exact ⟨first.1, fun r => ih r (first.2 r)⟩

theorem Only.onError {h : ε → Program σ ω ρ ε α} (first : p.Only B) (rest : ∀ e, (h e).Only B) :
    (p.onError h).Only B := by
  induction p with
  | ret a => exact trivial
  | fail e => exact rest e
  | read k ih => exact fun s => ih s (first s)
  | write op k ih => exact ⟨first.1, fun r => ih r (first.2 r)⟩

theorem Only.ite {c : Prop} [Decidable c] {q : Program σ ω ρ ε α} (yes : c → p.Only B)
    (no : ¬ c → q.Only B) : (if c then p else q).Only B := by
  split
  next h => exact yes h
  next h => exact no h

theorem Only.holds (only : p.Only B) (s : σ) :
    p.Holds exec (fun _ op => B op) (fun _ _ => True) (fun _ _ => True) s := by
  induction p generalizing s with
  | ret | fail => exact trivial
  | read k ih => exact ih s (only s) s
  | write op k ih => exact ⟨only.1, ih _ (only.2 _) _⟩

end Writes

section Failures

variable {exec : ω → σ → ρ × σ} {reply : ρ}

/-- Whatever a program does, a write that gets this reply ends it with an error. -/
def FailFast (reply : ρ) : Program σ ω ρ ε α → Prop
  | ret _ => True
  | fail _ => True
  | read k => ∀ s, (k s).FailFast reply
  | write _ k => (∃ e, k reply = fail e) ∧ ∀ r, (k r).FailFast reply

def HoldsFailing (exec : ω → σ → ρ × σ) (reply : ρ) (R : ω → Except ε α → σ → Prop) :
    Program σ ω ρ ε α → σ → Prop
  | ret _, _ => True
  | fail _, _ => True
  | read k, s => (k s).HoldsFailing exec reply R s
  | write op k, s => R op ((k reply).run exec s).1 ((k reply).run exec s).2 ∧
      (k (exec op s).1).HoldsFailing exec reply R (exec op s).2

variable {R : ω → Except ε α → σ → Prop} {p : Program σ ω ρ ε α} {s : σ}

theorem HoldsFailing.run (holds : p.HoldsFailing exec reply R s) (n : Nat) :
    (∃ op, (p.ops exec s)[n]? = some op ∧
      R op (p.runFailing exec reply n s).1 (p.runFailing exec reply n s).2) ∨
    p.runFailing exec reply n s = p.run exec s := by
  induction p generalizing s n with
  | ret | fail => exact .inr rfl
  | read k ih => exact ih s holds n
  | write op k ih =>
    cases n with
    | zero => exact .inl ⟨op, rfl, holds.1⟩
    | succ n => exact ih _ holds.2 n

theorem FailFast.bind {f : α → Program σ ω ρ ε β} (first : p.FailFast reply)
    (rest : ∀ a, (f a).FailFast reply) : (p >>= f).FailFast reply := by
  induction p with
  | ret a => exact rest a
  | fail e => exact trivial
  | read k ih => exact fun s => ih s (first s)
  | write op k ih =>
    obtain ⟨⟨e, fails⟩, others⟩ := first
    refine ⟨⟨e, ?_⟩, fun r => ih r (others r)⟩
    show (k reply).bind f = fail e
    rw [fails]
    rfl

theorem FailFast.ite {c : Prop} [Decidable c] {q : Program σ ω ρ ε α} (yes : p.FailFast reply)
    (no : q.FailFast reply) : (if c then p else q).FailFast reply := by
  split
  next => exact yes
  next => exact no

theorem FailFast.holdsFailing {P : σ → ω → Prop} {Q : α → σ → Prop}
    {h : ε → Program σ ω ρ ε α} (fast : p.FailFast reply)
    (holds : p.Holds exec P Q (fun _ _ => False) s)
    (handled : ∀ t op e, P t op → R op ((h e).run exec t).1 ((h e).run exec t).2) :
    (p.onError h).HoldsFailing exec reply R s := by
  induction p generalizing s with
  | ret a => exact trivial
  | fail e => exact absurd holds id
  | read k ih => exact ih s (fast s) holds
  | write op k ih =>
    obtain ⟨⟨e, fails⟩, others⟩ := fast
    refine ⟨?_, ih _ (others _) holds.2⟩
    have same : (k reply).onError h = h e := by
      rw [fails]
      rfl
    show R op (((k reply).onError h).run exec s).1 (((k reply).onError h).run exec s).2
    rw [same]
    exact handled s op e holds.1

end Failures

end Program

end GasCity
