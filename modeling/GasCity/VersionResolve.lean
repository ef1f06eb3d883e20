import Mathlib.Data.Prod.Lex
import GasCity.PoolSession
import GasCity.SortKey

namespace GasCity

open List

structure Semver where
  major : Int
  minor : Int
  patch : Int

def parseSemver (version : String) : Option Semver :=
  let parse (part : List Char) : Option Int :=
    let (n, ok) := atoi (String.ofList part)
    if ok then some n else none
  match version.toList.splitOn '.' with
  | [major, minor] => do return ⟨← parse major, ← parse minor, 0⟩
  | [major, minor, patch] => do return ⟨← parse major, ← parse minor, ← parse patch⟩
  | _ => none

/-- The source panics where this takes a zero version, which no tag reaches (`parses_of_tag`). -/
def mustParseSemver (version : String) : Semver := (parseSemver version).getD ⟨0, 0, 0⟩

def compareSemver (a b : Semver) : Ordering :=
  if a.major ≠ b.major then compare a.major b.major
  else if a.minor ≠ b.minor then compare a.minor b.minor
  else compare a.patch b.patch

def matchesOne (version : Semver) (constraint : String) : Bool :=
  let increment (n : Int) : Int := (n + 1).bmod (2 ^ 64)
  let within (text : String) (upper : Semver → Semver) : Bool :=
    (parseSemver text).any fun base =>
      compareSemver version base != .lt && compareSemver version (upper base) == .lt
  let compares (text : String) (holds : Ordering → Bool) : Bool :=
    (parseSemver text).any fun base => holds (compareSemver version base)
  if let some text := cutPrefix "^" constraint then
    within text fun base =>
      if base.major = 0 then ⟨0, increment base.minor, 0⟩ else ⟨increment base.major, 0, 0⟩
  else if let some text := cutPrefix "~" constraint then
    within text fun base => ⟨base.major, increment base.minor, 0⟩
  else if let some text := cutPrefix ">=" constraint then compares text (· != .lt)
  else if let some text := cutPrefix "<=" constraint then compares text (· != .gt)
  else if let some text := cutPrefix ">" constraint then compares text (· == .gt)
  else if let some text := cutPrefix "<" constraint then compares text (· == .lt)
  else compares constraint (· == .eq)

def matchesConstraint (version constraint : String) : Bool :=
  (parseSemver version).any fun v =>
    (constraint.toList.splitOn ',').all fun raw =>
      let part := trimSpace (String.ofList raw)
      part == "" || matchesOne v part

def normalizeTagVersion (tag : String) : Option String :=
  let version := (cutPrefix "v" tag).getD tag
  if (parseSemver version).isSome then some version else none

def remoteTag (line : String) : Option (String × String) :=
  match (line.toList.splitOnP isSpace).filter (· ≠ []) with
  | [commit, ref] => do
    let tag ← cutPrefix "refs/tags/" (String.ofList ref)
    -- an annotated tag is listed once more, peeled to its commit
    let peeled := if "^\x7b\x7d".toList.isSuffixOf tag.toList then
      String.ofList (tag.toList.take (tag.length - 3)) else tag
    let version ← normalizeTagVersion peeled
    return (version, String.ofList commit)
  | _ => none

def listRemoteTags (lines : List String) : FinMap String String :=
  (lines.filterMap remoteTag).foldl (fun tags t => tags.insert t.1 t.2) ∅

inductive ResolveError where
  | emptySha
  | noSemverTags (source : String)
  | noMatch (source constraint : String)
  deriving DecidableEq

structure ResolvedVersion where
  version : String
  commit : String
  deriving DecidableEq

def selects (constraint version : String) : Bool :=
  constraint == "" || matchesConstraint version constraint

section

variable (tags : FinMap String String) (source constraint : String)

def ResolveVersion (versions : List String) : Except ResolveError ResolvedVersion :=
  match cutPrefix "sha:" constraint with
  | some commit => if commit = "" then .error .emptySha else .ok ⟨constraint, commit⟩
  | none =>
    if tags.keys.isEmpty then .error (.noSemverTags source)
    else
      match versions.find? (selects constraint) with
      | some version => .ok ⟨version, (tags.lookup version).getD ""⟩
      | none => .error (.noMatch source constraint)

/-- The versions in an order in which the sort of the map's keys may leave them: none stands behind
a smaller one. -/
def SortedTags (versions : List String) : Prop :=
  versions.Perm tags.keys ∧ versions.Pairwise fun a b =>
    compareSemver (mustParseSemver b) (mustParseSemver a) ≠ .gt

structure GreatestTag (version : String) : Prop where
  tag : version ∈ tags.keys
  selected : selects constraint version = true
  greatest : ∀ other ∈ tags.keys, selects constraint other = true →
    compareSemver (mustParseSemver other) (mustParseSemver version) ≠ .gt

end

theorem parses_of_remoteTag {line : String} {t : String × String} (read : remoteTag line = some t) :
    (parseSemver t.1).isSome := by
  unfold remoteTag at read
  split at read
  next =>
    simp only [bind, Option.bind_eq_some_iff, pure] at read
    obtain ⟨tag, -, version, normal, is⟩ := read
    unfold normalizeTagVersion at normal
    grind
  next => cases read

/-- The keys of the map parse, so the comparison of two of them does not panic. -/
theorem parses_of_tag (lines : List String) :
    ∀ version ∈ (listRemoteTags lines).keys, (parseSemver version).isSome := by
  refine foldlRecOn (motive := fun tags : FinMap String String =>
    ∀ version ∈ tags.keys, (parseSemver version).isSome) _ _ (by simp) fun tags ok t mem version tag => ?_
  obtain ⟨line, -, read⟩ := mem_filterMap.mp mem
  obtain ⟨commit, found⟩ := FinMap.mem_keys_iff.mp tag
  rw [FinMap.lookup_insert_ite] at found
  split at found
  next here => exact here ▸ parses_of_remoteTag read
  next => exact ok version (FinMap.mem_keys_iff.mpr ⟨commit, found⟩)

def Semver.key (v : Semver) : Int ×ₗ Int ×ₗ Int := toLex (v.major, toLex (v.minor, v.patch))

theorem compareSemver_ne_gt_iff (a b : Semver) : compareSemver a b ≠ .gt ↔ a.key ≤ b.key := by
  simp only [compareSemver, Semver.key, Prod.Lex.toLex_le_toLex]
  have compares (m n : Int) : compare m n ≠ .gt ↔ m ≤ n := by
    rw [ne_eq, compare_gt_iff_gt]
    omega
  split
  next => rw [compares]; omega
  next => split <;> rw [compares] <;> omega

section

variable {tags : FinMap String String} {constraint : String} {order : List String}

/-- Sorted versions are in order of their keys, the greatest first. -/
theorem sortedTags_le (a b : String) :
    compareSemver (mustParseSemver b) (mustParseSemver a) ≠ .gt ↔
      OrderDual.toDual (mustParseSemver a).key ≤ OrderDual.toDual (mustParseSemver b).key :=
  (compareSemver_ne_gt_iff _ _).trans OrderDual.toDual_le_toDual.symm

theorem SortedTags.greatest {version : String} (sorted : SortedTags tags order)
    (found : order.find? (selects constraint) = some version) : GreatestTag tags constraint version where
  tag := sorted.1.mem_iff.mp (mem_of_find?_eq_some found)
  selected := find?_some found
  greatest _ tag selected := (sortedTags_le _ _).mpr
    (le_of_find? _ sortedTags_le sorted.2 found (sorted.1.mem_iff.mpr tag) selected)

theorem GreatestTag.picked {version : String} (greatest : GreatestTag tags constraint version) :
    ∃ order, SortedTags tags order ∧ order.find? (selects constraint) = some version := by
  obtain ⟨order, perm, sorted, found⟩ := exists_sorted_find? _ sortedTags_le greatest.tag
    greatest.selected greatest.greatest
  exact ⟨order, ⟨perm, sorted⟩, found⟩

end

/-- Every order of the tags leads to the same version and commit, and to one that satisfies the
constraint and is not smaller than any other that does, exactly where the greatest version that does
has one spelling among the tags; a `sha:` constraint asks for no tag. -/
theorem resolveVersion_independent_iff (lines : List String) (source constraint : String) :
    let tags := listRemoteTags lines
    (∀ order order', SortedTags tags order → SortedTags tags order' →
        ResolveVersion tags source constraint order = ResolveVersion tags source constraint order') ∧
      (∀ order r, SortedTags tags order → ResolveVersion tags source constraint order = .ok r →
        cutPrefix "sha:" constraint = some r.commit ∧ r.version = constraint ∨
          GreatestTag tags constraint r.version ∧ tags.lookup r.version = some r.commit) ↔
      (cutPrefix "sha:" constraint).isSome ∨ ∀ version version',
        GreatestTag tags constraint version → GreatestTag tags constraint version' →
          version = version' := by
  intro tags
  unfold ResolveVersion
  cases sha : cutPrefix "sha:" constraint with
  | some commit =>
    refine iff_of_true ⟨fun _ _ _ _ => rfl, fun _ r _ => ?_⟩ (.inl rfl)
    dsimp only
    split
    next => rintro ⟨⟩
    next => rintro ⟨⟩; exact .inl ⟨rfl, rfl⟩
  | none =>
    simp only [Option.isSome_none, Bool.false_eq_true, false_or, reduceCtorEq, false_and]
    constructor
    · rintro ⟨same, -⟩ version version' greatest greatest'
      obtain ⟨order, sorted, found⟩ := greatest.picked
      obtain ⟨order', sorted', found'⟩ := greatest'.picked
      have equal := same order order' sorted sorted'
      have some : ¬tags.keys.isEmpty = true := by
        simpa using ne_nil_of_mem greatest.tag
      rw [if_neg some, if_neg some, found, found'] at equal
      exact congrArg ResolvedVersion.version (Except.ok.inj equal)
    · intro one
      refine ⟨fun order order' sorted sorted' => ?_, fun order r sorted => ?_⟩
      · have perm := sorted.1.trans sorted'.1.symm
        cases found : order.find? (selects constraint) with
        | none =>
          have none' : order'.find? (selects constraint) = none :=
            find?_eq_none.mpr fun v mem => find?_eq_none.mp found v (perm.mem_iff.mpr mem)
          rw [none']
        | some version =>
          cases found' : order'.find? (selects constraint) with
          | none =>
            exact absurd (find?_some found) (find?_eq_none.mp found' version
              (perm.mem_iff.mp (mem_of_find?_eq_some found)))
          | some version' => rw [one _ _ (sorted.greatest found) (sorted'.greatest found')]
      · split
        next => rintro ⟨⟩
        next =>
          split
          next version found =>
            rintro ⟨⟩
            have greatest := sorted.greatest found
            obtain ⟨commit, held⟩ := FinMap.mem_keys_iff.mp greatest.tag
            exact ⟨greatest, by rw [held]; rfl⟩
          next => rintro ⟨⟩

/-- The tags `v1.0` and `v1.0.0` are one version, and either order of them may come up. -/
theorem resolveVersion_depends_on_order :
    let tags := listRemoteTags ["a refs/tags/v1.0", "b refs/tags/v1.0.0"]
    SortedTags tags ["1.0", "1.0.0"] ∧ SortedTags tags ["1.0.0", "1.0"] ∧
      ResolveVersion tags "" "^1.0" ["1.0", "1.0.0"] = .ok ⟨"1.0", "a"⟩ ∧
      ResolveVersion tags "" "^1.0" ["1.0.0", "1.0"] = .ok ⟨"1.0.0", "b"⟩ := by
  refine ⟨⟨?_, ?_⟩, ⟨?_, ?_⟩, ?_, ?_⟩ <;> decide +kernel

end GasCity
