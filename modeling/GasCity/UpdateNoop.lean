import GasCity.CacheReady
import GasCity.CacheWrites
import GasCity.MemStore

namespace GasCity
open List

section
variable {α : Type} [BEq α] [LawfulBEq α]

theorem eraseDups_eq_self {l : List α} (nodup : l.Nodup) : l.eraseDups = l := by
  induction l with
  | nil => rfl
  | cons a l ih =>
    obtain ⟨fresh, rest⟩ := nodup_cons.mp nodup
    have kept : l.filter (fun b => !b == a) = l := by
      refine filter_eq_self.mpr fun b mem => ?_
      simp only [Bool.not_eq_true', beq_eq_false_iff_ne]
      exact ne_of_mem_of_not_mem mem fresh
    rw [eraseDups_cons, kept, ih rest]

theorem nodup_eraseDups (l : List α) : l.eraseDups.Nodup := by
  induction n : l.length using Nat.strong_induction_on generalizing l with
  | _ n ih =>
    cases l with
    | nil => simp
    | cons a l =>
      rw [eraseDups_cons, nodup_cons]
      have shorter := length_filter_le (fun b => !b == a) l
      exact ⟨by simp [mem_eraseDups], ih _ (by simp at n; omega) _ rfl⟩

theorem eraseDups_append_of_subset {as bs : List α} (nodup : as.Nodup) (known : bs ⊆ as) :
    (as ++ bs).eraseDups = as := by
  have none : bs.removeAll as = [] := by
    refine filter_eq_nil_iff.mpr fun b mem => ?_
    simpa using known mem
  rw [eraseDups_append, eraseDups_eq_self nodup, none, eraseDups_nil, append_nil]

end

theorem lookup_writeAll (m kvs : StringMap) (k : String) :
    (writeAll m kvs).lookup k = (kvs.lookup k).or (m.lookup k) := by
  have value : ∀ kv ∈ kvs.entries, kv.2 = (kvs.lookup kv.1).getD "" := by
    rintro ⟨j, v⟩ mem
    rw [FinMap.mem_entries_iff.mp mem, Option.getD_some]
  have written : writeAll m kvs = kvs.entries.foldl
      (fun m kv => m.insert kv.1 ((kvs.lookup kv.1).getD "")) m :=
    foldl_ext _ _ _ fun m kv mem => congrArg (m.insert kv.1) (value kv mem)
  have known : k ∈ kvs.entries.map Sigma.fst ↔ ∃ v, kvs.lookup k = some v := FinMap.mem_keys_iff
  rw [written, FinMap.lookup_foldl_insert Sigma.fst (fun k => (kvs.lookup k).getD "")]
  cases found : kvs.lookup k with
  | none =>
    refine if_neg fun mem => ?_
    obtain ⟨v, other⟩ := known.mp mem
    exact absurd (found.symm.trans other) (by simp)
  | some v => exact if_pos (known.mpr ⟨v, found⟩)

variable {b : Bead} {opts : UpdateOpts}

theorem mem_updated_labels {l : String} : l ∈ (applyUpdateOptsToBead b opts).labels ↔
    (l ∈ b.labels ∨ l ∈ opts.labels) ∧ l ∉ opts.removeLabels := by
  unfold applyUpdateOptsToBead
  split
  next => simp [mem_eraseDups, or_and_right]
  next none =>
    have empty : opts.labels = [] ∧ opts.removeLabels = [] := by simpa using none
    simp [empty]

def Bead.unannotated (b : Bead) : Bead := { b with metadata := ∅ }

theorem labels_of_matches (nodup : b.labels.Nodup) (known : opts.labels ⊆ b.labels)
    (gone : ∀ l ∈ opts.removeLabels, l ∉ b.labels) :
    (applyUpdateOptsToBead b opts).labels = b.labels := by
  unfold applyUpdateOptsToBead
  split
  next =>
    have all : (b.labels ++ opts.labels).filter (fun l => !opts.removeLabels.contains l) =
        b.labels ++ opts.labels := by
      refine filter_eq_self.mpr fun l mem => ?_
      have here : l ∈ b.labels := (mem_append.mp mem).elim id (@known l)
      simpa using fun removed => gone l removed here
    rw [all, eraseDups_append_of_subset nodup known]
  next => rfl

theorem update_of_matches (nodup : b.labels.Nodup) (matching : updateMatches opts b) :
    (applyUpdateOptsToBead b opts).unannotated = b.unannotated ∧
      ∀ k, ((applyUpdateOptsToBead b opts).metadata.lookup k).getD "" =
        (b.metadata.lookup k).getD "" := by
  simp only [updateMatches, Bool.and_eq_true, all_eq_true] at matching
  obtain ⟨⟨⟨⟨⟨⟨⟨⟨⟨title, status⟩, type⟩, priority⟩, description⟩, parentID⟩, assignee⟩, metadata⟩,
    labels⟩, removed⟩ := matching
  have given : ∀ {o : Option String} {old : String}, o.all (· == old) = true → o.getD old = old := by
    intro o old all
    cases o <;> simp_all
  have ranked : opts.priority.or b.priority = b.priority := by
    cases h : opts.priority <;> simp_all
  have kept := labels_of_matches nodup (fun l mem => by simpa using labels l mem)
    (fun l mem => by simpa using removed l mem)
  refine ⟨?_, fun k => ?_⟩
  · unfold applyUpdateOptsToBead at kept
    simp only [Bead.unannotated, applyUpdateOptsToBead, given title, given status, given type,
      given description, given parentID, given assignee, ranked, kept]
  · show ((writeAll b.metadata opts.metadata).lookup k).getD "" = _
    rw [lookup_writeAll]
    cases found : opts.metadata.lookup k with
    | none => simp
    | some v =>
      have := all_eq_true.mp metadata _ (FinMap.mem_entries_iff.mpr found)
      rw [Option.some_or, Option.getD_some]
      exact (beq_iff_eq.mp this).symm

theorem update_twice (b : Bead) (opts : UpdateOpts) :
    (applyUpdateOptsToBead (applyUpdateOptsToBead b opts) opts).unannotated =
        (applyUpdateOptsToBead b opts).unannotated ∧
      ∀ k, (applyUpdateOptsToBead (applyUpdateOptsToBead b opts) opts).metadata.lookup k =
        (applyUpdateOptsToBead b opts).metadata.lookup k := by
  have given : ∀ (o : Option String) (old : String), o.getD (o.getD old) = o.getD old := by
    intro o old
    cases o <;> rfl
  have ranked : opts.priority.or (opts.priority.or b.priority) = opts.priority.or b.priority := by
    cases opts.priority <;> rfl
  have labels : (applyUpdateOptsToBead (applyUpdateOptsToBead b opts) opts).labels =
      (applyUpdateOptsToBead b opts).labels := by
    by_cases changes : opts.labels.length > 0 ∨ opts.removeLabels.length > 0
    · have kept : (applyUpdateOptsToBead b opts).labels.filter
          (fun l => !opts.removeLabels.contains l) = (applyUpdateOptsToBead b opts).labels :=
        filter_eq_self.mpr fun l mem => by simpa using (mem_updated_labels.mp mem).2
      have nodup : (applyUpdateOptsToBead b opts).labels.Nodup := by
        simp only [applyUpdateOptsToBead, if_pos changes, nodup_eraseDups]
      rw [applyUpdateOptsToBead, if_pos changes, filter_append, kept]
      refine eraseDups_append_of_subset nodup fun l mem => ?_
      obtain ⟨added, stays⟩ := mem_filter.mp mem
      exact mem_updated_labels.mpr ⟨.inr added, by simpa using stays⟩
    · simp only [applyUpdateOptsToBead, if_neg changes]
  refine ⟨?_, fun k => ?_⟩
  · unfold applyUpdateOptsToBead at labels
    simp only [Bead.unannotated, applyUpdateOptsToBead, given, ranked, labels]
  · show (writeAll (writeAll b.metadata opts.metadata) opts.metadata).lookup k =
      (writeAll b.metadata opts.metadata).lookup k
    rw [lookup_writeAll, lookup_writeAll]
    cases opts.metadata.lookup k <;> rfl

/-- Apart from the labels' order and multiplicity, revision, fence and timestamp. -/
def Bead.unstamped (b : Bead) : Bead :=
  { b with labels := [], revision := 0, claimFence := 0, updatedAt := 0 }

/-- The short-circuit skips only writes that change nothing, the cached update is idempotent, and
it gives the row that the store's own update gives. -/
theorem update_short_circuit :
    (∀ (c : CachingStore) (id : String) (b : Bead) (opts : UpdateOpts),
      c.beads.find id = some b → b.labels.Nodup → c.updateMatchesCached id opts →
        (applyUpdateOptsToBead b opts).unannotated = b.unannotated ∧
        ∀ k, ((applyUpdateOptsToBead b opts).metadata.lookup k).getD "" =
          (b.metadata.lookup k).getD "") ∧
    ∀ (b : Bead) (opts : UpdateOpts),
      ((applyUpdateOptsToBead (applyUpdateOptsToBead b opts) opts).unannotated =
          (applyUpdateOptsToBead b opts).unannotated ∧
        ∀ k, (applyUpdateOptsToBead (applyUpdateOptsToBead b opts) opts).metadata.lookup k =
          (applyUpdateOptsToBead b opts).metadata.lookup k) ∧
      ∀ now, (applyUpdateOptsToBead b opts).unstamped = (applyUpdate opts now b).unstamped ∧
        ∀ l, l ∈ (applyUpdateOptsToBead b opts).labels ↔ l ∈ (applyUpdate opts now b).labels := by
  refine ⟨fun c id b opts found nodup matching => ?_, fun b opts => ⟨update_twice b opts,
    fun now => ⟨rfl, fun l => ?_⟩⟩⟩
  · unfold CachingStore.updateMatchesCached CachingStore.primedRow at matching
    split at matching
    next => simp at matching
    next =>
      rw [found] at matching
      exact update_of_matches nodup matching
  · rw [mem_updated_labels]
    simp [applyUpdate, touch, or_and_right]

theorem update_short_circuit_same_title :
    (applyUpdateOptsToBead { id := "a", title := "t" } { title := some "t" }).unannotated =
      { id := "a", title := "t" } :=
  (update_short_circuit.1
    { state := .cacheLive, beads := KeyedList.empty.set { id := "a", title := "t" } } "a" _ _ rfl
    (by decide) rfl).1

end GasCity
