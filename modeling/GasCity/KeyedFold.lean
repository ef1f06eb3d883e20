import GasCity.KeyedList

namespace GasCity

open KeyedList List

variable {κ σ ρ α β ω : Type} [DecidableEq κ]

/-- A loop body that, on the rows `on` describes, reads and writes only the slot of its own
row's key. `good` is what the body relies on and keeps; `slot` is what it does to that slot. -/
structure OwnSlot (key : α → κ) (view : σ → κ → ρ) (on : α → Prop) (good : σ → Prop)
    (body : α → σ → σ) (slot : α → ρ → ρ) : Prop where
  keeps : ∀ a s, on a → good s → good (body a s)
  view_body : ∀ a s j, on a → good s →
    view (body a s) j = if j = key a then slot a (view s j) else view s j

variable {key : α → κ} {view : σ → κ → ρ} {on : α → Prop} {good : σ → Prop}
  {body : α → σ → σ} {slot : α → ρ → ρ}

variable (h : OwnSlot key view on good body slot)

include h

theorem OwnSlot.foldl_good {rows : List α}
    (hon : ∀ a ∈ rows, on a) {s : σ} (hs : good s) :
    good (rows.foldl (fun s a => body a s) s) := by
  induction rows generalizing s with
  | nil => exact hs
  | cons a rows ih =>
    rw [forall_mem_cons] at hon
    exact ih hon.2 (h.keeps a s hon.1 hs)

theorem OwnSlot.foldl_view_of_not_mem {rows : List α}
    (hon : ∀ a ∈ rows, on a) {s : σ} (hs : good s) {j : κ} (hj : j ∉ rows.map key) :
    view (rows.foldl (fun s a => body a s) s) j = view s j := by
  induction rows generalizing s with
  | nil => rfl
  | cons a rows ih =>
    rw [forall_mem_cons] at hon
    simp only [map_cons, mem_cons, not_or] at hj
    rw [foldl_cons, ih hon.2 (h.keeps a s hon.1 hs) hj.2, h.view_body a s j hon.1 hs,
      if_neg hj.1]

theorem OwnSlot.foldl_view_of_mem {rows : List α}
    (hon : ∀ a ∈ rows, on a) (nodup : (rows.map key).Nodup) {s : σ} (hs : good s) {a : α}
    (ha : a ∈ rows) :
    view (rows.foldl (fun s a => body a s) s) (key a) = slot a (view s (key a)) := by
  induction rows generalizing s with
  | nil => simp at ha
  | cons b rows ih =>
    rw [forall_mem_cons] at hon
    simp only [map_cons, nodup_cons] at nodup
    rw [foldl_cons]
    rcases mem_cons.mp ha with rfl | ha
    · rw [h.foldl_view_of_not_mem hon.2 (h.keeps a s hon.1 hs) nodup.1,
        h.view_body a s _ hon.1 hs, if_pos rfl]
    · have hne : key a ≠ key b := fun e => nodup.1 (e ▸ mem_map_of_mem ha)
      rw [ih hon.2 nodup.2 (h.keeps b s hon.1 hs) ha, h.view_body b s _ hon.1 hs, if_neg hne]

theorem OwnSlot.foldl_view (m : KeyedList key)
    (hon : ∀ a ∈ m.rows, on a) {s : σ} (hs : good s) (j : κ) :
    view (m.rows.foldl (fun s a => body a s) s) j =
      match m.find j with
      | some a => slot a (view s j)
      | none => view s j := by
  cases hf : m.find j with
  | none => exact h.foldl_view_of_not_mem hon hs (find_eq_none_iff.mp hf)
  | some a =>
    have := h.foldl_view_of_mem hon m.nodup hs (mem_of_find hf)
    rwa [key_of_find hf] at this

theorem OwnSlot.foldl_acc (acc : σ → β)
    (next : α → ρ → β → β)
    (hacc : ∀ a s, on a → good s → acc (body a s) = next a (view s (key a)) (acc s))
    {rows : List α} (hon : ∀ a ∈ rows, on a) (nodup : (rows.map key).Nodup) {s : σ} (hs : good s) :
    acc (rows.foldl (fun s a => body a s) s) =
      rows.foldl (fun b a => next a (view s (key a)) b) (acc s) := by
  induction rows generalizing s with
  | nil => rfl
  | cons a rows ih =>
    rw [forall_mem_cons] at hon
    simp only [map_cons, nodup_cons] at nodup
    rw [foldl_cons, ih hon.2 nodup.2 (h.keeps a s hon.1 hs),
      hacc a s hon.1 hs]
    apply foldl_ext
    intro b c hc
    have hne : key c ≠ key a := fun e => nodup.1 (e ▸ mem_map_of_mem hc)
    rw [h.view_body a s _ hon.1 hs, if_neg hne]

omit h

theorem foldl_output (out : β → List ω) (next : α → β → β) (emit : α → List ω)
    (hout : ∀ a b, out (next a b) = out b ++ emit a) (rows : List α) (b : β) :
    out (rows.foldl (fun b a => next a b) b) = out b ++ rows.flatMap emit := by
  induction rows generalizing b with
  | nil => simp
  | cons a rows ih => simp [ih, hout]

theorem foldl_reaches {R : β → β → Prop} (refl : ∀ b, R b b)
    (trans : ∀ {a b c}, R a b → R b c → R a c) {next : β → α → β} (round : ∀ b a, R b (next b a))
    (rows : List α) (b : β) : R b (rows.foldl next b) := by
  induction rows generalizing b with
  | nil => exact refl b
  | cons a rows ih => exact trans (round b a) (ih (next b a))

theorem foldl_keeps (keeps : β → Prop) {next : α → β → β}
    (rows : List α) (hnext : ∀ a ∈ rows, ∀ b, keeps b → keeps (next a b)) {b : β} (hb : keeps b) :
    keeps (rows.foldl (fun b a => next a b) b) := by
  induction rows generalizing b with
  | nil => exact hb
  | cons a rows ih =>
    rw [forall_mem_cons] at hnext
    exact ih hnext.2 (hnext.1 b hb)

end GasCity
